import DocumentGate.Document.Filter

/-!
# Filters that were not read

A value can be put to a document as a filter without reading it first.  The clauses are
then taken in order only as far as the answer needs them.  A key with an unknown
operator counts as a path, and an empty connective holds or fails as an empty list of
filters does.  What has no meaning is a fault when it is met: an unknown test where the
value and the operand have an order, a test of elements or a connective over something
that has none, and a filter that is no object.  On a filter that can be read the answer
is that of the filter.
-/

namespace DocumentGate.Filter

/-- Why a value cannot be put to a document. -/
inductive UnreadFault where
  | unknownOperator (name : String)
  /-- A value of this kind stands where elements are called for. -/
  | notIterable (kind : String)
  /-- A value of this kind stands where a filter is called for. -/
  | noMembers (kind : String)
deriving DecidableEq, Repr

/-- The fault in words. -/
def UnreadFault.message : UnreadFault → String
  | .unknownOperator name => (Fault.unknownOperator name).message
  | .notIterable kind => "'" ++ kind ++ "' object is not iterable"
  | .noMembers kind => "'" ++ kind ++ "' object has no attribute 'items'"

/-- What stands at a path and the operand are two numbers or two strings. -/
def haveOrder : Option Json → Json → Bool
  | some (.number _), .number _ => true
  | some (.string _), .string _ => true
  | _, _ => false

/-- What stands at a path meets one of the elements of an operand. -/
def meetsElement (found : Option Json) (operand : Json) : Except UnreadFault Bool :=
  match operand.elements? with
  | some elements => .ok (elements.any (foundMeets found))
  | none => .error (.notIterable operand.kindName)

/-- What stands at a path passes the test of an operator, if that is known. -/
def passesUnread (found : Option Json) (operator : String) (operand : Json) :
    Except UnreadFault Bool :=
  match operator with
  | "$eq" => .ok (foundMeets found operand)
  | "$ne" => .ok (!foundMeets found operand)
  | "$exists" => .ok (found.isSome == operand.holds)
  | "$in" => meetsElement found operand
  | "$nin" => (meetsElement found operand).map (!·)
  | _ =>
    match relation? operator with
    | some relation => .ok (relates relation found operand)
    | none => if haveOrder found operand then .error (.unknownOperator operator) else .ok false

/-- What stands at a path passes tests one after the other, up to the first failure. -/
def passAllUnread (found : Option Json) : List (String × Json) → Except UnreadFault Bool
  | [] => .ok true
  | (operator, operand) :: rest => do
    if ← passesUnread found operator operand then passAllUnread found rest else return false

/-- What stands at a path meets what is expected there. -/
def fieldHoldsUnread (document : Document) (path : String) (expected : Json) :
    Except UnreadFault Bool :=
  match operators? expected with
  | some members => passAllUnread (document.lookup path) members
  | none => .ok (foundMeets (document.lookup path) expected)

/-- A connective over names or characters, which are no filters. -/
def overTexts (whereEmpty isEmpty : Bool) : Except UnreadFault Bool :=
  if isEmpty then .ok whereEmpty else .error (.noMembers (Json.string "").kindName)

mutual
/-- The value matches a document as a filter. -/
def matchesUnread (document : Document) : Json → Except UnreadFault Bool
  | .object members => holdUnread document members
  | value => .error (.noMembers value.kindName)
termination_by structural value => value

/-- The members hold of a document, up to the first that does not. -/
def holdUnread (document : Document) : List (String × Json) → Except UnreadFault Bool
  | [] => .ok true
  | (key, value) :: rest => do
    let result ←
      if key = "$and" then allMatchUnread document value
      else if key = "$or" then anyMatchesUnread document value
      else fieldHoldsUnread document key value
    if result then holdUnread document rest else return false
termination_by structural members => members

/-- Every element matches a document as a filter. -/
def allMatchUnread (document : Document) : Json → Except UnreadFault Bool
  | .array elements => allElementsMatchUnread document elements
  | .object members => overTexts true members.isEmpty
  | .string text => overTexts true text.isEmpty
  | value => .error (.notIterable value.kindName)
termination_by structural value => value

/-- Some element matches a document as a filter. -/
def anyMatchesUnread (document : Document) : Json → Except UnreadFault Bool
  | .array elements => anyElementMatchesUnread document elements
  | .object members => overTexts false members.isEmpty
  | .string text => overTexts false text.isEmpty
  | value => .error (.notIterable value.kindName)
termination_by structural value => value

/-- Every element of a list matches, up to the first that does not. -/
def allElementsMatchUnread (document : Document) : List Json → Except UnreadFault Bool
  | [] => .ok true
  | first :: rest => do
    if ← matchesUnread document first then allElementsMatchUnread document rest else return false
termination_by structural elements => elements

/-- Some element of a list matches, up to the first that does. -/
def anyElementMatchesUnread (document : Document) : List Json → Except UnreadFault Bool
  | [] => .ok false
  | first :: rest => do
    if ← matchesUnread document first then return true else anyElementMatchesUnread document rest
termination_by structural elements => elements
end

end DocumentGate.Filter
