import DocumentGate.Document.Path
import DocumentGate.Json.Equality

/-!
# Filters

A filter is a conjunction of clauses.  A clause compares the value at a path with an
expected value, puts tests to it, or combines further filters.  Reading a filter from a
value rejects everything that has no meaning, in the order of the members, so that a
filter that has been read can be put to every document.

A missing value equals null only.  A list meets an expected value that is no list when
one of its elements does; otherwise values meet when they are equal and not one of them
alone is a boolean.  Only two numbers or two strings have an order.
-/

namespace DocumentGate

/-- An order between a value and an operand. -/
inductive Relation where
  | greater
  | greaterOrEqual
  | less
  | lessOrEqual
deriving DecidableEq, Repr

/-- A test of the value at a path. -/
inductive Test where
  | equal (operand : Json)
  | different (operand : Json)
  | ordered (relation : Relation) (operand : Json)
  | among (operands : List Json)
  | notAmong (operands : List Json)
  /-- The value is there, or is not where it is not wanted. -/
  | present (wanted : Bool)

/-- A clause of a filter; a filter is a list of clauses that all hold. -/
inductive Clause where
  | all (filters : List (List Clause))
  | any (filters : List (List Clause))
  | value (path : String) (expected : Json)
  | tests (path : String) (tests : List Test)

/-- A filter: clauses that all hold. -/
abbrev Filter := List Clause

namespace Filter

/-! ## Reading -/

/-- Why a value is no filter. -/
inductive Fault where
  | notObject
  | notFilters (connective : String)
  | unknownOperator (name : String)
  | notArray (operator : String)
deriving DecidableEq, Repr

/-- The fault in words. -/
def Fault.message : Fault → String
  | .notObject => "Filter must be an object"
  | .notFilters connective => connective ++ " expects a non-empty array of filters"
  | .unknownOperator name => "Unknown filter operator '" ++ name ++ "'"
  | .notArray operator => operator ++ " expects an array"

/-- A key that names an operator. -/
def isOperatorName (key : String) : Bool :=
  key.toList.head? == some '$'

/-- The members of an object whose keys all name operators, if there are any. -/
def operators? : Json → Option Json.Members
  | .object [] => none
  | .object members => if members.all fun (key, _) => isOperatorName key then some members else none
  | _ => none

/-- The order that an operator asks for. -/
def relation? : String → Option Relation
  | "$gt" => some .greater
  | "$gte" => some .greaterOrEqual
  | "$lt" => some .less
  | "$lte" => some .lessOrEqual
  | _ => none

/-- The operands of an operator that takes a list. -/
def readOperands (operator : String) : Json → Except Fault (List Json)
  | .array operands => .ok operands
  | _ => .error (.notArray operator)

/-- The test that an operator and its operand stand for. -/
def readTest (operator : String) (operand : Json) : Except Fault Test :=
  match operator with
  | "$eq" => .ok (.equal operand)
  | "$ne" => .ok (.different operand)
  | "$in" => (readOperands operator operand).map .among
  | "$nin" => (readOperands operator operand).map .notAmong
  | "$exists" => .ok (.present operand.holds)
  | _ =>
    match relation? operator with
    | some relation => .ok (.ordered relation operand)
    | none => .error (.unknownOperator operator)

/-- The clause of a path and what is expected there. -/
def readField (path : String) (expected : Json) : Except Fault Clause :=
  match operators? expected with
  | some members => do
    let tests ← members.mapM fun (operator, operand) => readTest operator operand
    return .tests path tests
  | none => .ok (.value path expected)

mutual
/-- The filter that a value stands for. -/
def read : Json → Except Fault Filter
  | .object members => readClauses members
  | _ => .error .notObject
termination_by structural value => value

/-- The clauses of members. -/
def readClauses : List (String × Json) → Except Fault Filter
  | [] => .ok []
  | (key, value) :: rest => do
    let clause ←
      if key = "$and" then (readFilters key value).map .all
      else if key = "$or" then (readFilters key value).map .any
      else if isOperatorName key then throw (.unknownOperator key)
      else readField key value
    let clauses ← readClauses rest
    return clause :: clauses
termination_by structural members => members

/-- The filters that a connective combines, at least one. -/
def readFilters (connective : String) : Json → Except Fault (List Filter)
  | .array [] => .error (.notFilters connective)
  | .array (first :: others) => do
    let filter ← read first
    let filters ← readAll others
    return filter :: filters
  | _ => .error (.notFilters connective)
termination_by structural value => value

/-- The filters that values stand for. -/
def readAll : List Json → Except Fault (List Filter)
  | [] => .ok []
  | first :: others => do
    let filter ← read first
    let filters ← readAll others
    return filter :: filters
termination_by structural values => values
end

/-! ## Meaning -/

mutual
/-- The value equals the expected one, or has such an element. -/
def meets : Json → Json → Bool
  | .array elements, expected =>
    match expected with
    | .array _ => Json.equals (.array elements) expected
    | _ => anyMeets elements expected
  | value, expected => value.isBoolean == expected.isBoolean && Json.equals value expected
termination_by structural value => value

/-- Some element meets the expected value. -/
def anyMeets : List Json → Json → Bool
  | [], _ => false
  | element :: rest, expected => meets element expected || anyMeets rest expected
termination_by structural elements => elements
end

/-- What stands at a path meets the expected value; nothing meets null only. -/
def foundMeets (found : Option Json) (expected : Json) : Bool :=
  match found, expected with
  | none, .null => true
  | none, _ => false
  | some value, _ => meets value expected

/-- The relation between two numbers. -/
def relatesNumbers : Relation → Number → Number → Bool
  | .greater, left, right => right.less left
  | .greaterOrEqual, left, right => right.lessOrEqual left
  | .less, left, right => left.less right
  | .lessOrEqual, left, right => left.lessOrEqual right

/-- The relation between two strings, by code points. -/
def relatesStrings : Relation → String → String → Bool
  | .greater, left, right => decide (right < left)
  | .greaterOrEqual, left, right => decide (right ≤ left)
  | .less, left, right => decide (left < right)
  | .lessOrEqual, left, right => decide (left ≤ right)

/-- Two numbers or two strings stand in the relation. -/
def relates (relation : Relation) : Option Json → Json → Bool
  | some (.number value), .number operand => relatesNumbers relation value operand
  | some (.string value), .string operand => relatesStrings relation value operand
  | _, _ => false

/-- What stands at a path passes a test. -/
def passes (found : Option Json) : Test → Bool
  | .equal operand => foundMeets found operand
  | .different operand => !foundMeets found operand
  | .ordered relation operand => relates relation found operand
  | .among operands => operands.any (foundMeets found)
  | .notAmong operands => !operands.any (foundMeets found)
  | .present wanted => found.isSome == wanted

mutual
/-- The clause holds of a document. -/
def clauseHolds (document : Document) : Clause → Bool
  | .all filters => allHold document filters
  | .any filters => anyHolds document filters
  | .value path expected => foundMeets (document.lookup path) expected
  | .tests path tests => tests.all (passes (document.lookup path))
termination_by structural clause => clause

/-- The filter matches a document. -/
def holds (document : Document) : List Clause → Bool
  | [] => true
  | clause :: rest => clauseHolds document clause && holds document rest
termination_by structural clauses => clauses

/-- Every filter matches a document. -/
def allHold (document : Document) : List (List Clause) → Bool
  | [] => true
  | filter :: rest => holds document filter && allHold document rest
termination_by structural filters => filters

/-- Some filter matches a document. -/
def anyHolds (document : Document) : List (List Clause) → Bool
  | [] => false
  | filter :: rest => holds document filter || anyHolds document rest
termination_by structural filters => filters
end

end Filter

/-- The filter matches a document. -/
def Filter.matches (filter : Filter) (document : Document) : Bool :=
  Filter.holds document filter

end DocumentGate
