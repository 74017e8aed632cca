import DocumentGate.Number.Double

/-!
# The shortest decimal that reads back

A double is written with the fewest significant digits that are read back as the
same double, and of two such decimals with the nearer one.  For a given number of
digits only the two neighbours of the value on that decimal grid can read back, so
the grids of one to seventeen digits are tried in turn.  The exact decimal value
stands behind them, which reads back in any case.
-/

namespace DocumentGate

/-- The number `coefficient * 10 ^ exponent`. -/
structure Decimal where
  coefficient : Nat
  exponent : Int
deriving DecidableEq, Repr

namespace Decimal

/-- The double that the decimal is read as. -/
def toDouble (decimal : Decimal) : Double :=
  Double.ofDecimal false decimal.coefficient decimal.exponent

/-- A quotient times a power of ten, as a quotient. -/
def scale (numerator denominator : Nat) (power : Int) : Nat × Nat :=
  if 0 ≤ power then (numerator * Nat.pow 10 power.toNat, denominator)
  else (numerator, denominator * Nat.pow 10 (-power).toNat)

/--
The position of the first digit: the power of ten above the value.  No double but
zero is below `10 ^ -324`, so the digits are counted on that scale.
-/
def magnitude (steps : Nat) : Int :=
  (Nat.toDigits 10 (steps * Nat.pow 10 324 / Double.stepsPerUnit)).length - 324

/--
The decimal of the given number of digits that reads back as the value, if there is
one: the nearer of the two neighbours where both do, the even one of two equally near.
-/
def ofDigits? (value : Double) (steps digits : Nat) : Option Decimal :=
  let exponent := magnitude steps - digits
  let (numerator, denominator) := scale steps Double.stepsPerUnit (-exponent)
  let below := numerator / denominator
  let near := Number.divideRounding numerator denominator
  [near, below, below + 1].findSome? fun coefficient =>
    let decimal : Decimal := ⟨coefficient, exponent⟩
    if decimal.toDouble = value then some decimal else none

/-- The exact decimal value of a number of steps. -/
def exact (steps : Nat) : Decimal :=
  ⟨steps * Nat.pow 5 1074, -1074⟩

/-- The shortest decimal that reads back as the positive double of these parts. -/
def shortest (significand exponent : Nat) : Decimal :=
  let steps := significand * Nat.pow 2 exponent
  let value := Double.ofParts false significand exponent
  ((List.range 17).findSome? fun digits => ofDigits? value steps (digits + 1)).getD (exact steps)

end Decimal

example : Decimal.shortest 7205759403792794 1019 = ⟨2, -1⟩ := by decide +kernel
example : Decimal.shortest 1 0 = ⟨5, -324⟩ := by decide +kernel

end DocumentGate
