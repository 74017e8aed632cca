import DocumentGate.Postgres.Mapping

/-!
# Columns of rows

A row holds values under the names of columns.  Where a text is called for, a string
counts as itself and every other value as it is shown in messages: a list between
brackets, an object between braces, and the strings inside between quotation marks.
-/

namespace DocumentGate.Postgres

/-- A row: values under the names of columns. -/
abbrev Row := Dictionary Json

/-- The value in a column. -/
def column (name : String) (row : Row) : Except DocumentFault Json :=
  match Dictionary.get? name row with
  | some value => .ok value
  | none => .error (.missingColumn name)

/-- A number as messages show it. -/
def shownNumber : Number → String
  | .double (.infinite negative) => if negative then "-inf" else "inf"
  | .double (.nan _) => "nan"
  | value => (Json.number value).text

mutual
/-- A value as messages show it. -/
def shown : Json → String
  | .null => "None"
  | .boolean value => if value then "True" else "False"
  | .number value => shownNumber value
  | .string text => Text.quoted text
  | .array elements => "[" ++ ", ".intercalate (shownElements elements) ++ "]"
  | .object members => "\x7b" ++ ", ".intercalate (shownMembers members) ++ "\x7d"
termination_by structural value => value

/-- Each element as messages show it. -/
def shownElements : List Json → List String
  | [] => []
  | element :: rest => shown element :: shownElements rest
termination_by structural elements => elements

/-- Each member as messages show it. -/
def shownMembers : List (String × Json) → List String
  | [] => []
  | (name, value) :: rest => (Text.quoted name ++ ": " ++ shown value) :: shownMembers rest
termination_by structural members => members
end

/-- A value where a text is called for. -/
def asText : Json → String
  | .string text => text
  | value => shown value

/-- What a column holds, as text. -/
def columnText (name : String) (row : Row) : Except DocumentFault String :=
  (column name row).map asText

example : shown (.array [.string "a", .null, .integer 1]) = "['a', None, 1]" := by
  decide +kernel

end DocumentGate.Postgres
