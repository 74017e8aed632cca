import DocumentGate.Settings.Validation
import DocumentGate.Text.Utf8
import DocumentGate.Toml.Reader

/-!
# Settings from a file

A settings file that is missing or malformed gives the defaults.  Otherwise each
setting is taken from the file where its value is usable and keeps its default where it
is not.  Four things in a file are not passed over: bytes that encode no text, a whole
number of too many digits, one that is beyond the largest double where a double is
called for, and a list or table among the allowed operations.
-/

namespace DocumentGate.Settings

/-- What stands in the place of the settings file. -/
inductive Source where
  | missing
  | directory
  | bytes (content : List UInt8)

/-- Why loading the settings fails. -/
inductive LoadFault where
  | undecodable (fault : Text.Utf8.Fault)
  | oversizedLiteral (digits : Nat)
  | integerTooLarge
  | listAmongOperations
  | tableAmongOperations
  | invalid (problems : List Problem)
deriving DecidableEq, Repr

/-- The fault in words. -/
def LoadFault.message : LoadFault → String
  | .undecodable fault => fault.message
  | .oversizedLiteral digits => Json.oversizedLiteralMessage digits
  | .integerTooLarge => "int too large to convert to float"
  | .listAmongOperations => "unhashable type: 'list'"
  | .tableAmongOperations => "unhashable type: 'dict'"
  | .invalid problems => problemsMessage problems

/-- A number of seconds above zero, where the file has a number. -/
def fileSeconds (value : Toml) : Except LoadFault (Option Json) :=
  match value with
  | .integer value =>
    if value ≤ 0 then .ok none
    else
      match Double.ofInteger? value with
      | some seconds => .ok (some (ofDouble seconds))
      | none => .error .integerTooLarge
  | .double value =>
    if Number.less (.integer 0) (.double value) then .ok (some (ofDouble value)) else .ok none
  | _ => .ok none

/-- A whole number above zero and below the bound, if there is one. -/
def fileWhole (bound : Option Int) (value : Toml) : Except LoadFault (Option Json) :=
  match value with
  | .integer value =>
    if value ≤ 0 || bound.any (· ≤ value) then .ok none else .ok (some (.integer value))
  | _ => .ok none

/-- A text that is not blank. -/
def fileText (value : Toml) : Except LoadFault (Option Json) :=
  match value with
  | .text value => .ok (if Text.isBlankText value then none else some (.string value))
  | _ => .ok none

/-- The known operations of a list; a list or a table in it cannot be looked up. -/
def fileOperations (value : Toml) : Except LoadFault (Option Json) :=
  match value with
  | .array elements => do
    let names ← elements.filterMapM fun element =>
      match element with
      | .text name =>
        .ok (if (Operation.ofName? name).isSome then some (Json.string name) else none)
      | .array _ => .error .listAmongOperations
      | .table _ => .error .tableAmongOperations
      | _ => .ok none
    return some (.array names)
  | _ => .ok none

/-- The texts of a list that are not empty. -/
def fileKeywords (value : Toml) : Except LoadFault (Option Json) :=
  match value with
  | .array elements =>
    .ok (some (.array (elements.filterMap fun element =>
      match element with
      | .text word => if word.isEmpty then none else some (Json.string word)
      | _ => none)))
  | _ => .ok none

/-- How each setting is taken from a file, in the order in which they are looked at. -/
def fileFields : List (String × (Toml → Except LoadFault (Option Json))) :=
  [("idle_timeout_seconds", fileSeconds),
    ("scan_interval_seconds", fileSeconds),
    ("connect_timeout", fileSeconds),
    ("status_log_interval_seconds", fileSeconds),
    ("max_argument_depth", fileWhole none),
    ("pool_max_size", fileWhole none),
    ("port", fileWhole (some 65536)),
    ("root_prefix", fileText),
    ("host", fileText),
    ("session_cookie", fileText),
    ("allowed_operations", fileOperations),
    ("denied_keywords", fileKeywords)]

/-- The usable values of a file. -/
def usable (members : Toml.Members) : Except LoadFault Json.Members :=
  fileFields.filterMapM fun (field, take) =>
    match Dictionary.get? field members with
    | some value => do return (← take value).map fun value => (field, value)
    | none => .ok none

/-- The settings of a file by its characters. -/
def ofFileText (characters : List Char) : Except LoadFault Settings :=
  match Toml.read characters with
  | .error .malformed => .ok defaults
  | .error (.oversized digits) => .error (.oversizedLiteral digits)
  | .ok members => do
    match ofMembers (← usable members) with
    | .ok settings => return settings
    | .error problems => throw (.invalid problems)

/-- The settings that are in force. -/
def load : Source → Except LoadFault Settings
  | .missing => .ok defaults
  | .directory => .ok defaults
  | .bytes content => do
    ofFileText (← (Text.Utf8.decode content).mapError .undecodable)

end DocumentGate.Settings
