import DocumentGate.Dictionary
import DocumentGate.Number.Basic

/-!
# Document values

Documents, filters, updates and the arguments of a command are values of one type.
An object keeps its members in order; a key that is set again keeps its place.  That
the keys of an object are distinct is a predicate beside the type, `Json.HasDistinctKeys`:
readers establish it, and the operations on members keep it.
-/

namespace DocumentGate

/-- A value of a document. -/
inductive Json where
  | null
  | boolean (value : Bool)
  | number (value : Number)
  | string (text : String)
  | array (elements : List Json)
  | object (members : List (String × Json))

namespace Json

/-- The members of an object in order. -/
abbrev Members := Dictionary Json

/-- A whole number as a value. -/
def integer (value : Int) : Json :=
  .number (.integer value)

/-- A count as a value. -/
def count (value : Nat) : Json :=
  integer value

/-- An empty, zero or absent value does not hold; every other value does. -/
def holds : Json → Bool
  | .null => false
  | .boolean value => value
  | .number value => !value.isZero
  | .string text => text != ""
  | .array elements => !elements.isEmpty
  | .object members => !members.isEmpty

/-- The kind of a value as messages name it. -/
def kindName : Json → String
  | .null => "NoneType"
  | .boolean _ => "bool"
  | .number (.integer _) => "int"
  | .number (.double _) => "float"
  | .string _ => "str"
  | .array _ => "list"
  | .object _ => "dict"

/-- The elements of a list, the names in an object, or the characters of a string. -/
def elements? : Json → Option (List Json)
  | .array elements => some elements
  | .object members => some (members.map fun (name, _) => .string name)
  | .string text => some (text.toList.map fun character => .string (String.singleton character))
  | _ => none

mutual
/-- How many values lie inside one another at most, the value itself included. -/
def levels : Json → Nat
  | .array elements => levelsOfElements elements + 1
  | .object members => levelsOfMembers members + 1
  | _ => 1
termination_by structural value => value

/-- The most `levels` of an element. -/
def levelsOfElements : List Json → Nat
  | [] => 0
  | element :: rest => max (levels element) (levelsOfElements rest)
termination_by structural elements => elements

/-- The most `levels` of the value of a member. -/
def levelsOfMembers : List (String × Json) → Nat
  | [] => 0
  | (_, value) :: rest => max (levels value) (levelsOfMembers rest)
termination_by structural members => members
end

mutual
/-- A mark that no number in the value has, and above that of those that are read. -/
def freshMark : Json → Nat
  | .number value => value.freshMark
  | .array elements => freshMarkOfElements elements
  | .object members => freshMarkOfMembers members
  | _ => 1
termination_by structural value => value

/-- A mark as `freshMark` gives it, for all elements. -/
def freshMarkOfElements : List Json → Nat
  | [] => 1
  | element :: rest => max (freshMark element) (freshMarkOfElements rest)
termination_by structural elements => elements

/-- A mark as `freshMark` gives it, for the values of all members. -/
def freshMarkOfMembers : List (String × Json) → Nat
  | [] => 1
  | (_, value) :: rest => max (freshMark value) (freshMarkOfMembers rest)
termination_by structural members => members
end

mutual
/-- The keys of every object in the value are distinct. -/
def HasDistinctKeys : Json → Prop
  | .array elements => AllHaveDistinctKeys elements
  | .object members => (members.map Prod.fst).Nodup ∧ MembersHaveDistinctKeys members
  | _ => True
termination_by structural value => value

/-- `HasDistinctKeys` of each element. -/
def AllHaveDistinctKeys : List Json → Prop
  | [] => True
  | element :: rest => HasDistinctKeys element ∧ AllHaveDistinctKeys rest
termination_by structural elements => elements

/-- `HasDistinctKeys` of the value of each member. -/
def MembersHaveDistinctKeys : List (String × Json) → Prop
  | [] => True
  | (_, value) :: rest => HasDistinctKeys value ∧ MembersHaveDistinctKeys rest
termination_by structural members => members
end

end Json
end DocumentGate
