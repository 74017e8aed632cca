import DocumentGate.Dictionary
import DocumentGate.Json.Equality
import DocumentGate.Json.Reader
import DocumentGate.Json.Writer
import DocumentGate.Text.Quoted

/-!
# Documents as a server delivers them

A stored document comes as its text, or decoded already.  A mapping is made of an object
and of a list of pairs.  In pairs a name may be any value without parts; names of equal
value are one name, whose first spelling stays, and a written name is the text of the
value.

Updates are made to mappings of strings.  A name that no path can reach is therefore held
under a key of its own while an update is made, and is written as before afterwards.
-/

namespace DocumentGate.Postgres

/-- Why a value makes no mapping. -/
inductive MappingFault where
  | notIterable (kind : String)
  /-- The element at this position has no parts. -/
  | notSequence (position : Nat)
  /-- The element at this position has not two parts. -/
  | wrongLength (position length : Nat)
  /-- A pair has a list or an object for its name. -/
  | unhashable (kind : String)
deriving DecidableEq, Repr

/-- The fault in words. -/
def MappingFault.message : MappingFault → String
  | .notIterable kind => "'" ++ kind ++ "' object is not iterable"
  | .notSequence position =>
    "cannot convert dictionary update sequence element #" ++ toString position ++ " to a sequence"
  | .wrongLength position length =>
    "dictionary update sequence element #" ++ toString position ++ " has length " ++
      toString length ++ "; 2 is required"
  | .unhashable kind => "unhashable type: '" ++ kind ++ "'"

/-- Why what was delivered holds no document. -/
inductive DocumentFault where
  | missingColumn (name : String)
  | undecodable (error : Json.ReadError)
  | notMapping (fault : MappingFault)
deriving DecidableEq, Repr

/-- The fault in words. -/
def DocumentFault.message : DocumentFault → String
  | .missingColumn name => Text.quoted name
  | .undecodable error => error.message
  | .notMapping fault => fault.message

/-! ## Names -/

/-- A value that may be a name. -/
def nameOf : Json → Except MappingFault Json
  | .array elements => .error (.unhashable (Json.array elements).kindName)
  | .object members => .error (.unhashable (Json.object members).kindName)
  | value => .ok value

/-- Two values are the same name. -/
def isSameName (left right : Json) : Bool :=
  Json.isSameNan left right || Json.equals left right

/-- A name as it is written. -/
def writtenName : Json → String
  | .string name => name
  | value => value.text

/--
The key of a name.  A path reaches strings without a dot only, because dots part it.
Every other name gets a key of its own with a dot in front.
-/
def keyOf : Json → String
  | .string name => if name.toList.contains '.' then "." ++ (Json.string name).text else name
  | value => "." ++ value.text

/-! ## Mappings -/

/-- Values under names of any kind, in order. -/
abbrev Mapping := List (Json × Json)

/-- Set the value of a name: in place where the name is present, else at the end. -/
def Mapping.insert (name value : Json) : Mapping → Mapping
  | [] => [(name, value)]
  | (other, old) :: rest =>
    if isSameName other name then (other, value) :: rest
    else (other, old) :: Mapping.insert name value rest

/-- The name and the value of the pair at a position. -/
def pairOf (position : Nat) (element : Json) : Except MappingFault (Json × Json) :=
  match element.elements? with
  | some [name, value] => do return (← nameOf name, value)
  | some parts => .error (.wrongLength position parts.length)
  | none => .error (.notSequence position)

/-- The mapping that a list of pairs makes. -/
def Mapping.ofPairs (elements : List Json) : Except MappingFault Mapping := do
  let pairs ← elements.zipIdx.mapM fun (element, position) => pairOf position element
  return pairs.foldl (fun mapping (name, value) => mapping.insert name value) []

/-- The members of a document while an update is made to it. -/
structure Held where
  members : Json.Members
  /-- The written names of those keys that are not written as they are. -/
  names : List (String × String) := []

/-- A mapping with keys that tell apart what paths can reach. -/
def Mapping.hold (mapping : Mapping) : Held where
  members := mapping.map fun (name, value) => (keyOf name, value)
  names := mapping.map fun (name, _) => (keyOf name, writtenName name)

/-- Members with their names as they are written. -/
def Held.written (held : Held) : Json.Members :=
  held.members.map fun (key, value) => ((held.names.lookup key).getD key, value)

/-- The mapping that a value makes. -/
def mappingOf : Json → Except MappingFault Held
  | .object members => .ok ⟨members, []⟩
  | .array elements => (Mapping.ofPairs elements).map Mapping.hold
  | .string text => if text.isEmpty then .ok ⟨[], []⟩ else .error (.wrongLength 0 1)
  | value => .error (.notIterable value.kindName)

/-- The document in a column. -/
def decodeDocument : Json → Except DocumentFault Json
  | .string text => (Json.read text).mapError .undecodable
  | value => ((mappingOf value).map fun held => .object held.written).mapError .notMapping

/-- The mapping in a column, and the value that it is compared with when it has changed. -/
def decodeMapping : Json → Except DocumentFault (Held × Json)
  | .string text => do
    let value ← (Json.read text).mapError .undecodable
    return (← (mappingOf value).mapError .notMapping, value)
  | value => do
    let held ← (mappingOf value).mapError .notMapping
    return (held, .object held.members)

/-- The first spelling of a name stays. -/
example :
    let pairs := [Json.array [.integer 1, .null], .array [.boolean true, .string "b"]]
    ((Mapping.ofPairs pairs).toOption.map fun mapping => mapping.hold.written.map Prod.fst) =
      some ["1"] := by
  decide +kernel

end DocumentGate.Postgres
