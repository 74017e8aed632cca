import DocumentGate.Number.Double

/-!
# Numbers of a document

A document tells whole numbers, which have any size, from double-precision ones.
The two kinds are compared exactly: every number that is not NaN has a place on one
line of whole steps, with the infinities at its ends, and order and equality are
those of the places.  Only addition converts, and a whole number beyond the largest
double cannot be added to a double.
-/

namespace DocumentGate

/-- A number of a document. -/
inductive Number where
  | integer (value : Int)
  | double (value : Double)
deriving DecidableEq

namespace Number

/-- A place on the number line, counted in steps of the smallest double. -/
inductive Place where
  | lowest
  | steps (count : Int)
  | highest
deriving DecidableEq

/-- The first place lies before the second. -/
def Place.before : Place → Place → Bool
  | .lowest, .lowest => false
  | .lowest, _ => true
  | .steps left, .steps right => left < right
  | .steps _, .highest => true
  | _, _ => false

/-- The place of a number, if it has one. -/
def place? : Number → Option Place
  | .integer value => some (.steps (value * Double.stepsPerUnit))
  | .double (.finite negative significand exponent _) =>
    some (.steps (Double.signed negative (significand * Nat.pow 2 exponent)))
  | .double (.infinite negative) => some (if negative then .lowest else .highest)
  | .double (.nan _) => none

/-- Both numbers have a place, and the places stand in the given relation. -/
def related (relation : Place → Place → Bool) (left right : Number) : Bool :=
  match left.place?, right.place? with
  | some left, some right => relation left right
  | _, _ => false

/-- The numbers have the same value; nothing equals a number without a place. -/
def equals (left right : Number) : Bool :=
  related (fun left right => left == right) left right

/-- The first number is the smaller one. -/
def less (left right : Number) : Bool :=
  related Place.before left right

/-- The first number is not the greater one, and both have a place. -/
def lessOrEqual (left right : Number) : Bool :=
  less left right || equals left right

/-- The number is zero, of either kind and sign. -/
def isZero : Number → Bool
  | .integer value => value == 0
  | .double value => value.isZero

/--
The sum, if no whole number beyond the largest double meets a double.  One that is not a
number takes the given mark.
-/
def add? (mark : Nat) : Number → Number → Option Number
  | .integer left, .integer right => some (.integer (left + right))
  | .integer left, .double right =>
    (Double.ofInteger? left).map fun left => .double (left.add mark right)
  | .double left, .integer right =>
    (Double.ofInteger? right).map fun right => .double (left.add mark right)
  | .double left, .double right => some (.double (left.add mark right))

/-- A mark that this number does not have, and above that of those that are read. -/
def freshMark : Number → Nat
  | .double (.nan mark) => mark + 1
  | _ => 1

/-- A place is before another, equal to it, or after it, and only one of the three. -/
theorem Place.before_trichotomy (left right : Place) :
    (left.before right && !(left == right) && !right.before left) ||
      (!left.before right && left == right && !right.before left) ||
      (!left.before right && !(left == right) && right.before left) = true := by
  cases left <;> cases right <;> simp [Place.before]
  rename_i left right
  rcases Int.lt_trichotomy left right with less | equal | greater
  · simp [less, Int.ne_of_lt less, Int.le_of_lt less]
  · simp [equal]
  · simp [greater, Int.ne_of_gt greater, Int.le_of_lt greater]

/-- The order of places is transitive. -/
theorem Place.before_trans {first second third : Place}
    (earlier : first.before second = true) (later : second.before third = true) :
    first.before third = true := by
  cases first <;> cases second <;> cases third <;>
    simp_all [Place.before]
  omega

end Number
end DocumentGate
