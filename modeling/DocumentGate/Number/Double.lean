import DocumentGate.Number.Rounding

/-!
# Double-precision numbers

A double is kept as its exact value.  Every finite double is a whole number of
steps of `2 ^ -1074`, the distance between the smallest two, so that order and
sums are questions about whole numbers and rounding happens in one place only:
`Double.nearest` takes an exact quotient of steps to the nearest double, a half to
the even one.

A double that is not a number differs from every double when two numbers are
compared.  Inside a list or an object it counts as unchanged where it is the same
one as before, and so it carries a mark.  Those that are read have the mark zero; a sum
is marked by whoever asks for it.
-/

namespace DocumentGate

/--
The parts of a finite double: a significand of at most 53 bits, shifted left by an
exponent.  Only a significand of full length is shifted, so each double has one
pair of parts.
-/
def Double.Fits (significand exponent : Nat) : Prop :=
  significand < Nat.pow 2 53 ∧ exponent ≤ 2045 ∧ (exponent = 0 ∨ Nat.pow 2 52 ≤ significand)

instance (significand exponent : Nat) : Decidable (Double.Fits significand exponent) :=
  inferInstanceAs (Decidable (_ ∧ _ ∧ _))

/-- A double-precision number. -/
inductive Double where
  /-- The number of `significand * 2 ^ exponent` steps of `2 ^ -1074`; zero has a sign too. -/
  | finite (negative : Bool) (significand exponent : Nat)
      (fits : Double.Fits significand exponent)
  | infinite (negative : Bool)
  /-- Not a number, with a mark that tells those apart that sums led to. -/
  | nan (mark : Nat)
deriving DecidableEq

namespace Double

/-- The number of steps in the number one. -/
def stepsPerUnit : Nat := Nat.pow 2 1074

/-- The finite double with the given parts, or infinity where they are too large. -/
def ofParts (negative : Bool) (significand exponent : Nat) : Double :=
  if fits : Fits significand exponent then .finite negative significand exponent fits
  else .infinite negative

/-- How far a number of steps must be shifted right for a significand of 53 bits. -/
def shiftFor (steps : Nat) : Nat :=
  steps.log2 + 1 - 53

/-- The double nearest to a quotient of steps, a half to the even significand. -/
def nearest (negative : Bool) (numerator denominator : Nat) : Double :=
  let shift := shiftFor (numerator / denominator)
  let significand := Number.divideRounding numerator (denominator * Nat.pow 2 shift)
  if significand = Nat.pow 2 53 then ofParts negative (Nat.pow 2 52) (shift + 1)
  else ofParts negative significand shift

/-- Positive zero. -/
def zero : Double :=
  .finite false 0 0 (by decide)

/-- The sign put before a magnitude. -/
def signed (negative : Bool) (magnitude : Nat) : Int :=
  if negative then -(magnitude : Int) else magnitude

/--
The double nearest to `coefficient * 10 ^ exponent`.  Exponents far outside the
range of doubles are settled first, so that no power of ten grows beyond need.
-/
def ofDecimal (negative : Bool) (coefficient : Nat) (exponent : Int) : Double :=
  if coefficient = 0 then ofParts negative 0 0
  else if 400 < exponent then .infinite negative
  else if exponent + coefficient.log2 + 1 < -400 then ofParts negative 0 0
  else if 0 ≤ exponent then
    nearest negative (coefficient * Nat.pow 10 exponent.toNat * stepsPerUnit) 1
  else nearest negative (coefficient * stepsPerUnit) (Nat.pow 10 (-exponent).toNat)

/-- The double nearest to a whole number, if it is not beyond the largest double. -/
def ofInteger? (value : Int) : Option Double :=
  match nearest (value < 0) (value.natAbs * stepsPerUnit) 1 with
  | .finite negative significand exponent fits => some (.finite negative significand exponent fits)
  | _ => none

/--
The sum, rounded to the nearest double.  Infinities of both signs have no sum, and
a sum with something that is not a number is none either; it takes the given mark.
-/
def add (mark : Nat) : Double → Double → Double
  | .nan _, _ => .nan mark
  | _, .nan _ => .nan mark
  | .infinite left, .infinite right => if left = right then .infinite left else .nan mark
  | .infinite negative, _ => .infinite negative
  | _, .infinite negative => .infinite negative
  | .finite leftNegative leftSignificand leftExponent _,
    .finite rightNegative rightSignificand rightExponent _ =>
    let sum :=
      signed leftNegative (leftSignificand * Nat.pow 2 leftExponent) +
        signed rightNegative (rightSignificand * Nat.pow 2 rightExponent)
    if sum = 0 then ofParts (leftNegative && rightNegative) 0 0
    else nearest (sum < 0) sum.natAbs 1

/-- Only the two zeros have no magnitude. -/
def isZero : Double → Bool
  | .finite _ significand _ _ => significand == 0
  | _ => false

/-- The exact value as a fraction, where there is one. -/
def toRat? : Double → Option Rat
  | .finite negative significand exponent _ =>
    some (mkRat (signed negative (significand * Nat.pow 2 exponent)) stepsPerUnit)
  | _ => none

/-- The double nearest to an exact value. -/
def ofRat (value : Rat) : Double :=
  nearest (value < 0) (value.num.natAbs * stepsPerUnit) value.den

/-- The value of the nearest double; values beyond the largest double are kept. -/
def rounded (value : Rat) : Rat :=
  (ofRat value).toRat?.getD value

example : rounded (mkRat 1 10) = mkRat 3602879701896397 36028797018963968 := by decide +kernel

end Double
end DocumentGate
