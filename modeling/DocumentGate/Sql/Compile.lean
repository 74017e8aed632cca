import DocumentGate.Document.Filter
import DocumentGate.Json.Writer
import DocumentGate.Sql.Condition

/-!
# Filters as conditions

A filter compiles to a condition and the parameters that the condition refers to.
Paths and operands become parameters in the order in which they are met, numbered from
one on after the parameters that were there before.
-/

namespace DocumentGate.Sql

/-- A value that goes with a statement. -/
inductive Parameter where
  | text (value : String)
  | path (segments : List String)
deriving DecidableEq, Repr

/-- A computation that adds parameters. -/
abbrev Compiling := StateM (List Parameter)

/-- Add a parameter; the result is its number. -/
def addParameter (parameter : Parameter) : Compiling Nat := do
  modify fun parameters => parameters ++ [parameter]
  return (← get).length

/-- The part of the document at a path. -/
def fieldAt (path : String) : Compiling Term := do
  return .field (← addParameter (.path (Document.segments path)))

/-- An operand as a parameter. -/
def operandTerm (operand : Json) : Compiling Term := do
  return .parameter (← addParameter (.text (Json.text operand)))

/-- The field equals the operand, or is a list with such an element. -/
def equality (field : Term) (operand : Json) : Compiling Condition :=
  match operand with
  | .null =>
    return .group (.either (.isAbsent field) (.compare .equal field .jsonNull))
  | .array elements => do
    let value ← operandTerm (.array elements)
    return .orFalse (.compare .equal field value)
  | operand => do
    let value ← operandTerm operand
    return .orFalse (.either (.compare .equal field value)
      (.group (.both (.compare .equal (.typeOf field) .arrayType)
        (.compare .contains field (.listOf value)))))

/-- The field equals one of the operands. -/
def equalsAny (field : Term) (operands : List Json) : Compiling Condition := do
  let conditions ← operands.mapM (equality field)
  return .group (.disjunction conditions)

/-- The comparison of an order. -/
def comparisonOf : Relation → Comparison
  | .greater => .greater
  | .greaterOrEqual => .greaterOrEqual
  | .less => .less
  | .lessOrEqual => .lessOrEqual

/-- Only numbers and strings have an order. -/
def isOrderable : Json → Bool
  | .number _ => true
  | .string _ => true
  | _ => false

/-- The condition of a test on a field. -/
def compileTest (field : Term) : Test → Compiling Condition
  | .equal operand => equality field operand
  | .different operand => return .negation (← equality field operand)
  | .present wanted => return if wanted then .isPresent field else .isAbsent field
  | .among [] => return .constant false
  | .among operands => equalsAny field operands
  | .notAmong [] => return .constant true
  | .notAmong operands => return .negation (← equalsAny field operands)
  | .ordered relation operand => do
    if isOrderable operand then
      let value ← operandTerm operand
      return .orFalse (.both (.compare .equal (.typeOf field) (.typeOf value))
        (.compare (comparisonOf relation) field value))
    else return .constant false

mutual
/-- The conditions of a clause, which all have to hold. -/
def compileClause : Clause → Compiling (List Condition)
  | .all filters => do
    let conditions ← compileAll filters
    return [.group (.conjunction conditions)]
  | .any filters => do
    let conditions ← compileAll filters
    return [.group (.disjunction conditions)]
  | .value path expected => do
    let field ← fieldAt path
    return [← equality field expected]
  | .tests path tests => do
    let field ← fieldAt path
    tests.mapM (compileTest field)
termination_by structural clause => clause

/-- The conditions of clauses. -/
def compileClauses : List Clause → Compiling (List Condition)
  | [] => return []
  | clause :: rest => do
    let first ← compileClause clause
    let others ← compileClauses rest
    return first ++ others
termination_by structural clauses => clauses

/-- The condition of each filter. -/
def compileAll : List (List Clause) → Compiling (List Condition)
  | [] => return []
  | filter :: rest => do
    let conditions ← compileClauses filter
    let others ← compileAll rest
    return .conjunction conditions :: others
termination_by structural filters => filters
end

/-- The condition of a filter. -/
def compile (filter : Filter) : Compiling Condition :=
  return .conjunction (← compileClauses filter)

end DocumentGate.Sql
