import DocumentGate.Sql.Compile

/-!
# Values compiled as they stand

A value can be compiled as it stands, member by member, without making a filter of it first.  It
is still read before, and so is every filter in it when its turn comes; what was found out then is
not used again, so that each member is sorted once more by its key and by what it is expected to
be.  An operator that is not known is one that holds of nothing.  An operand is only written while
none of its whole numbers has too many digits.
-/

namespace DocumentGate.Sql

/-- Why a value cannot be compiled as it stands. -/
inductive UnreadFault where
  /-- The value, or one of the values that it combines, is no filter. -/
  | filter (fault : Filter.Fault)
  /-- A value of this kind stands where elements are called for. -/
  | notIterable (kind : String)
  /-- An operand has a number that is not written. -/
  | oversized
deriving DecidableEq, Repr

/-- The fault in words. -/
def UnreadFault.message : UnreadFault → String
  | .filter fault => fault.message
  | .notIterable kind => "'" ++ kind ++ "' object is not iterable"
  | .oversized => Json.oversizedMessage

/-- A computation that adds parameters and may fail. -/
abbrev CompilingUnread := ExceptT UnreadFault Compiling

/-- The field equals an operand that can be written. -/
def equalityUnread (field : Term) (operand : Json) : CompilingUnread Condition :=
  if operand.hasOversizedNumber then throw .oversized else ExceptT.lift (equality field operand)

/-- The field equals one of the elements of an operand. -/
def equalsElement (field : Term) (operand : Json) : CompilingUnread Condition :=
  match operand.elements? with
  | some elements => do
    let conditions ← elements.mapM (equalityUnread field)
    return .group (.disjunction conditions)
  | none => throw (.notIterable operand.kindName)

/-- The condition of an operator on a field. -/
def compileOperator (field : Term) (operator : String) (operand : Json) :
    CompilingUnread Condition :=
  match operator with
  | "$eq" => equalityUnread field operand
  | "$ne" => return .negation (← equalityUnread field operand)
  | "$exists" => return if operand.holds then .isPresent field else .isAbsent field
  | "$in" => if operand.holds then equalsElement field operand else return .constant false
  | "$nin" => do
    if operand.holds then return .negation (← equalsElement field operand)
    else return .constant true
  | _ =>
    match Filter.relation? operator with
    | some relation =>
      if isOrderable operand && operand.hasOversizedNumber then throw .oversized
      else ExceptT.lift (compileTest field (.ordered relation operand))
    | none => return .constant false

/-- The conditions of what is expected at a path, which all have to hold. -/
def compileField (path : String) (expected : Json) : CompilingUnread (List Condition) := do
  let field ← ExceptT.lift (fieldAt path)
  match Filter.operators? expected with
  | some members => members.mapM fun (operator, operand) => compileOperator field operator operand
  | none => return [← equalityUnread field expected]

/-- A connective over names or characters, which are no filters. -/
def overTexts (isEmpty : Bool) : CompilingUnread (List Condition) :=
  if isEmpty then return [] else throw (.filter .notObject)

/-- The conditions that a connective combines as one, between parentheses. -/
def grouped (combine : List Condition → Condition) (conditions : List Condition) :
    List Condition :=
  [.group (combine conditions)]

mutual
/-- The condition of a value, which is read as a filter before. -/
def compileUnread : Json → CompilingUnread Condition
  | .object members => do
    match Filter.read (.object members) with
    | .ok _ => return .conjunction (← compileMembers members)
    | .error fault => throw (.filter fault)
  | _ => throw (.filter .notObject)
termination_by structural value => value

/-- The conditions of members, which all have to hold. -/
def compileMembers : List (String × Json) → CompilingUnread (List Condition)
  | [] => return []
  | (key, value) :: rest => do
    let first ←
      if key = "$and" then grouped .conjunction <$> compileConnected value
      else if key = "$or" then grouped .disjunction <$> compileConnected value
      else compileField key value
    let others ← compileMembers rest
    return first ++ others
termination_by structural members => members

/-- The conditions of what a connective combines. -/
def compileConnected : Json → CompilingUnread (List Condition)
  | .array elements => compileEach elements
  | .object members => overTexts members.isEmpty
  | .string text => overTexts text.isEmpty
  | value => throw (.notIterable value.kindName)
termination_by structural value => value

/-- The condition of each value. -/
def compileEach : List Json → CompilingUnread (List Condition)
  | [] => return []
  | first :: rest => do
    let condition ← compileUnread first
    let others ← compileEach rest
    return condition :: others
termination_by structural values => values
end

end DocumentGate.Sql
