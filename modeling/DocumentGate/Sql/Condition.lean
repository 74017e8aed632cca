/-!
# Conditions of statements

The terms and conditions that filters compile to, over a column `doc` of binary JSON,
and their text.  Data never stands in a condition: terms refer to parameters by number.
-/

namespace DocumentGate.Sql

/-- A term whose value is binary JSON, or a text about one. -/
inductive Term where
  /-- The part of the document at the path that is the parameter of the number. -/
  | field (path : Nat)
  /-- The parameter of the number. -/
  | parameter (number : Nat)
  | jsonNull
  | typeOf (term : Term)
  /-- The name of the type of lists. -/
  | arrayType
  | listOf (term : Term)
deriving DecidableEq, Repr

/-- A comparison of two terms. -/
inductive Comparison where
  | equal
  | contains
  | greater
  | greaterOrEqual
  | less
  | lessOrEqual
deriving DecidableEq, Repr

/-- A condition; it may be neither true nor false. -/
inductive Condition where
  | constant (value : Bool)
  | isAbsent (term : Term)
  | isPresent (term : Term)
  | compare (comparison : Comparison) (left right : Term)
  /-- False where the condition is neither true nor false. -/
  | orFalse (condition : Condition)
  | negation (condition : Condition)
  | both (left right : Condition)
  | either (left right : Condition)
  /-- The condition between parentheses. -/
  | group (condition : Condition)
deriving DecidableEq, Repr

/-- The text of a term. -/
def Term.written : Term → String
  | .field path => "(doc #> $" ++ toString path ++ "::text[])"
  | .parameter number => "$" ++ toString number ++ "::jsonb"
  | .jsonNull => "'null'::jsonb"
  | .typeOf term => "jsonb_typeof(" ++ term.written ++ ")"
  | .arrayType => "'array'"
  | .listOf term => "jsonb_build_array(" ++ term.written ++ ")"

/-- The symbol of a comparison. -/
def Comparison.symbol : Comparison → String
  | .equal => "="
  | .contains => "@>"
  | .greater => ">"
  | .greaterOrEqual => ">="
  | .less => "<"
  | .lessOrEqual => "<="

/-- The text of a condition. -/
def Condition.written : Condition → String
  | .constant true => "TRUE"
  | .constant false => "FALSE"
  | .isAbsent term => term.written ++ " IS NULL"
  | .isPresent term => term.written ++ " IS NOT NULL"
  | .compare comparison left right =>
    left.written ++ " " ++ comparison.symbol ++ " " ++ right.written
  | .orFalse condition => "COALESCE(" ++ condition.written ++ ", FALSE)"
  | .negation condition => "NOT " ++ condition.written
  | .both left right => left.written ++ " AND " ++ right.written
  | .either left right => left.written ++ " OR " ++ right.written
  | .group condition => "(" ++ condition.written ++ ")"

/-- Conditions joined by AND, or TRUE where there are none. -/
def Condition.conjunction : List Condition → Condition
  | [] => .constant true
  | first :: rest => rest.foldl .both first

/-- Conditions joined by OR, or FALSE where there are none. -/
def Condition.disjunction : List Condition → Condition
  | [] => .constant false
  | first :: rest => rest.foldl .either first

end DocumentGate.Sql
