import DocumentGate.Settings.Basic
import DocumentGate.Settings.Coercion

/-!
# Validation of settings

Settings are built from named values.  A name that is absent takes its default and one
that is unknown is ignored.  All settings are checked and every fault is reported, in
the order of the listing and with the position of an element where it lies in a list.
-/

namespace DocumentGate.Settings

/-- A fault with the name of the setting, or of the element of it, that has the fault. -/
structure Problem where
  field : String
  fault : FieldFault
deriving DecidableEq, Repr

/-- The problem in words. -/
def Problem.message (problem : Problem) : String :=
  problem.field ++ ":" ++ problem.fault.message

/-- Problems in words, in order. -/
def problemsMessage (problems : List Problem) : String :=
  "; ".intercalate (problems.map Problem.message)

/-- A value, or every problem that was found with it. -/
inductive Validated (α : Type) where
  | valid (value : α)
  | invalid (problems : List Problem)

/-- Apply one validated part to another, with the problems of both. -/
def Validated.apply {α β : Type} :
    Validated (α → β) → Validated α → Validated β
  | .valid function, .valid value => .valid (function value)
  | .invalid problems, .valid _ => .invalid problems
  | .valid _, .invalid problems => .invalid problems
  | .invalid first, .invalid second => .invalid (first ++ second)

instance : Applicative Validated where
  pure := .valid
  seq function value := function.apply (value ())

/-- The problems, or the value, as an exceptional result. -/
def Validated.toExcept {α : Type} : Validated α → Except (List Problem) α
  | .valid value => .ok value
  | .invalid problems => .error problems

/-- One result under the name of its field. -/
def Validated.ofResult {α : Type} (field : String) : Except FieldFault α → Validated α
  | .ok value => .valid value
  | .error fault => .invalid [⟨field, fault⟩]

/-- The field of the values, read and checked, or the default where it is absent. -/
def readField {α : Type} (members : Json.Members) (field : String) (default : α)
    (check : Json → Except FieldFault α) : Validated α :=
  match Dictionary.get? field members with
  | some value => Validated.ofResult field (check value)
  | none => .valid default

/-- A number of seconds above zero, which NaN is not. -/
def positiveDouble (value : Json) : Except FieldFault Double := do
  let seconds ← toDouble value
  unless Number.less (.integer 0) (.double seconds) do throw .greaterThan
  return seconds

/-- A whole number above zero. -/
def positiveInteger (value : Json) : Except FieldFault Int := do
  let number ← toInteger value
  if number ≤ 0 then throw .greaterThan
  return number

/-- A port number. -/
def portNumber (value : Json) : Except FieldFault Int := do
  let number ← toInteger value
  if 65536 ≤ number then throw .lessThan
  if number ≤ 0 then throw .greaterThan
  return number

/-- A root prefix, trimmed and not empty. -/
def prefixText (value : Json) : Except FieldFault String := do
  let text ← toText value
  if Text.isBlankText text then throw .emptyRootPrefix
  return Text.strip text

/-- A list of strings; each element that is none has a problem of its own. -/
def readStrings (members : Json.Members) (field : String) (default : List String) :
    Validated (List String) :=
  match Dictionary.get? field members with
  | none => .valid default
  | some (.array elements) =>
    elements.zipIdx.foldr
      (fun (element, index) rest =>
        List.cons <$> Validated.ofResult (field ++ "." ++ toString index) (toText element) <*> rest)
      (.valid [])
  | some _ => .invalid [⟨field, .tupleType⟩]

/-- Operations by name, all of which must be known. -/
def knownOperations (field : String) : Validated (List String) → Validated (List Operation)
  | .invalid problems => .invalid problems
  | .valid names =>
    let unknown := names.filter fun name => (Operation.ofName? name).isNone
    if unknown.isEmpty then .valid (names.filterMap Operation.ofName?)
    else .invalid [⟨field, .unknownOperations unknown⟩]

/-- Settings from named values. -/
def validate (members : Json.Members) : Validated Settings :=
  Settings.mk
    <$> readField members "idle_timeout_seconds" defaults.idleTimeout positiveDouble
    <*> readField members "scan_interval_seconds" defaults.scanInterval positiveDouble
    <*> knownOperations "allowed_operations"
      (readStrings members "allowed_operations" (Operation.all.map Operation.name))
    <*> readStrings members "denied_keywords" defaults.deniedKeywords
    <*> readField members "root_prefix" defaults.rootPrefix prefixText
    <*> readField members "max_argument_depth" defaults.depthLimit positiveInteger
    <*> readField members "connect_timeout" defaults.connectTimeout positiveDouble
    <*> readField members "pool_max_size" defaults.poolLimit positiveInteger
    <*> readField members "host" defaults.host toText
    <*> readField members "port" defaults.port portNumber
    <*> readField members "session_cookie" defaults.sessionCookie toText
    <*> readField members "status_log_interval_seconds" defaults.statusInterval positiveDouble

/-- Settings from named values, or the problems with them. -/
def ofMembers (members : Json.Members) : Except (List Problem) Settings :=
  (validate members).toExcept

/-- Why settings were not replaced. -/
inductive OverrideFault where
  /-- The name that the settings to change themselves go by was given to a value. -/
  | receiverNamed
  | invalid (problems : List Problem)

/-- The fault in words. -/
def OverrideFault.message : OverrideFault → String
  | .receiverNamed => "AppConfig.with_overrides() got multiple values for argument 'self'"
  | .invalid problems => problemsMessage problems

/-- The settings with some of them replaced, checked again. -/
def withOverrides (settings : Settings) (overrides : Json.Members) :
    Except OverrideFault Settings :=
  if (Dictionary.get? "self" overrides).isSome then .error .receiverNamed
  else
    (ofMembers (overrides.foldl
      (fun members (field, value) => Dictionary.insert field value members)
      settings.fields)).mapError .invalid

end DocumentGate.Settings
