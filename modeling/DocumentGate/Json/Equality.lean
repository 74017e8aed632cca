import DocumentGate.Json.Value

/-!
# Equality of values

Values are equal when their parts are.  Numbers are equal by value whatever their kind,
and a boolean equals the number one or zero.  Objects are equal when they have the same
members in any order.

Something that is not a number equals nothing, but inside a list or an object the same
one counts as unchanged.
-/

namespace DocumentGate.Json

/-- The number that a number or a boolean counts as. -/
def number? : Json → Option Number
  | .number value => some value
  | .boolean value => some (.integer (if value then 1 else 0))
  | _ => none

/-- Both values are the same double that is not a number. -/
def isSameNan : Json → Json → Bool
  | .number (.double (.nan left)), .number (.double (.nan right)) => left == right
  | _, _ => false

mutual
/-- The values are equal. -/
def equals : Json → Json → Bool
  | .null, .null => true
  | .string left, .string right => left == right
  | .array left, .array right => elementsEqual left right
  | .object left, .object right => left.length == right.length && membersEqual left right
  | .boolean left, right => right.number?.any (Number.equals (.integer (if left then 1 else 0)))
  | .number left, right => right.number?.any (Number.equals left)
  | _, _ => false
termination_by structural left => left

/-- The lists have equal elements in the same order. -/
def elementsEqual : List Json → List Json → Bool
  | [], [] => true
  | left :: lefts, right :: rights =>
    (isSameNan left right || equals left right) && elementsEqual lefts rights
  | _, _ => false
termination_by structural lefts => lefts

/-- Each member has an equal counterpart among the members on the right. -/
def membersEqual : List (String × Json) → List (String × Json) → Bool
  | [], _ => true
  | (key, left) :: lefts, rights =>
    (match Dictionary.get? key rights with
      | some right => isSameNan left right || equals left right
      | none => false) &&
      membersEqual lefts rights
termination_by structural lefts => lefts
end

/-- The value is a boolean. -/
def isBoolean : Json → Bool
  | .boolean _ => true
  | _ => false

end DocumentGate.Json
