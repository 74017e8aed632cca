/-!
# Rounding a quotient

Both the reading of decimal numbers and their shortest writing round an exact
quotient to a whole number.  A quotient goes to the nearer of its two neighbours;
one that lies halfway goes to the even neighbour.
-/

namespace DocumentGate.Number

/-- The quotient rounded to the nearest whole number, a half to the even neighbour. -/
def divideRounding (numerator denominator : Nat) : Nat :=
  let whole := numerator / denominator
  let twiceRest := 2 * (numerator % denominator)
  if twiceRest < denominator || (twiceRest == denominator && whole % 2 == 0) then whole
  else whole + 1

/-- A quotient without a remainder is not changed by rounding. -/
theorem divideRounding_mul {denominator : Nat} (positive : 0 < denominator) (quotient : Nat) :
    divideRounding (quotient * denominator) denominator = quotient := by
  simp [divideRounding, positive]

/-- Rounding moves a quotient by at most a half. -/
theorem divideRounding_error {denominator : Nat} (positive : 0 < denominator) (numerator : Nat) :
    2 * (divideRounding numerator denominator * denominator) ≤ 2 * numerator + denominator ∧
      2 * numerator ≤ 2 * (divideRounding numerator denominator * denominator) + denominator := by
  have split := Nat.div_add_mod numerator denominator
  have small := Nat.mod_lt numerator positive
  rw [Nat.mul_comm] at split
  unfold divideRounding
  simp only
  split
  · rename_i near
    simp only [Bool.or_eq_true, decide_eq_true_eq, Bool.and_eq_true, beq_iff_eq] at near
    omega
  · rename_i far
    simp only [Bool.or_eq_true, decide_eq_true_eq, Bool.and_eq_true, beq_iff_eq, not_or] at far
    rw [Nat.add_mul, Nat.one_mul]
    omega

end DocumentGate.Number
