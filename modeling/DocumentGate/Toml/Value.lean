import DocumentGate.Dictionary
import DocumentGate.Number.Double

/-!
# Values of a settings file

The values that a settings file may hold.  Dates and times are accepted there, but no
setting is one, so that only their presence is kept.
-/

namespace DocumentGate

/-- A value of a settings file. -/
inductive Toml where
  | text (value : String)
  | integer (value : Int)
  | double (value : Double)
  | boolean (value : Bool)
  | moment
  | array (elements : List Toml)
  | table (members : List (String × Toml))

namespace Toml

/-- The members of a table in the order in which their keys came first. -/
abbrev Members := Dictionary Toml

/--
Change the table behind a path of keys.  Tables that are missing on the way are
created; where `throughArrays` holds, an array of tables stands for its last one.
Nothing results when something else stands on the way or the change is refused.
-/
def changeAt (throughArrays : Bool) (path : List String)
    (change : Members → Option Members) (members : Members) : Option Members :=
  match path with
  | [] => change members
  | key :: rest =>
    match Dictionary.get? key members with
    | none => do
      let inner ← changeAt throughArrays rest change []
      return Dictionary.insert key (.table inner) members
    | some (.table inner) => do
      let inner ← changeAt throughArrays rest change inner
      return Dictionary.insert key (.table inner) members
    | some (.array elements) =>
      match throughArrays, elements.getLast? with
      | true, some (.table inner) => do
        let inner ← changeAt throughArrays rest change inner
        return Dictionary.insert key (.array (elements.dropLast ++ [.table inner])) members
      | _, _ => none
    | some _ => none

end Toml
end DocumentGate
