import DocumentGate.Service.World
import Mathlib.Algebra.Order.Field.Rat
import Mathlib.Algebra.Order.Ring.Cast
import Mathlib.Algebra.Order.Ring.Int

/-!
# Spans of time and their limits

A limit is a double, and a span is measured as the rounded difference of two times.  Rounding
goes to the nearest double, so it takes no span beyond a limit that the span is within: a span
that is measured as longer than the limit is longer.
-/

namespace DocumentGate

/-! ## Rounding and doubles -/

namespace Number

variable {numerator denominator quotient : Nat}

theorem divideRounding_le (positive : 0 < denominator)
    (below : numerator ≤ quotient * denominator) :
    divideRounding numerator denominator ≤ quotient := by
  have error := (divideRounding_error positive numerator).1
  by_contra above
  have next : (quotient + 1) * denominator ≤ divideRounding numerator denominator * denominator :=
    Nat.mul_le_mul_right denominator (Nat.lt_of_not_le above)
  rw [Nat.add_mul] at next
  omega

theorem le_divideRounding (positive : 0 < denominator)
    (above : quotient * denominator ≤ numerator) :
    quotient ≤ divideRounding numerator denominator := by
  have error := (divideRounding_error positive numerator).2
  by_contra below
  have next : (divideRounding numerator denominator + 1) * denominator ≤ quotient * denominator :=
    Nat.mul_le_mul_right denominator (Nat.lt_of_not_le below)
  rw [Nat.add_mul] at next
  omega

end Number

namespace Double

/-- The steps in the double nearest to a quotient of steps. -/
def nearestSteps (numerator denominator : Nat) : Nat :=
  let shift := shiftFor (numerator / denominator)
  Number.divideRounding numerator (denominator * 2 ^ shift) * 2 ^ shift

theorem toRat?_ofParts {negative : Bool} {significand exponent : Nat} {value : Rat}
    (finite : (ofParts negative significand exponent).toRat? = some value) :
    value = mkRat (signed negative (significand * Nat.pow 2 exponent)) stepsPerUnit := by
  unfold ofParts at finite
  split at finite
  · exact (Option.some.inj finite).symm
  · cases finite

theorem toRat?_nearest {negative : Bool} {numerator denominator : Nat} {value : Rat}
    (finite : (nearest negative numerator denominator).toRat? = some value) :
    value = mkRat (signed negative (nearestSteps numerator denominator)) stepsPerUnit := by
  unfold nearest at finite
  unfold nearestSteps
  dsimp only at finite ⊢
  split at finite
  · rename_i full
    have carried (shift : Nat) : 2 ^ 52 * 2 ^ (shift + 1) = 2 ^ 53 * 2 ^ shift := by
      rw [← Nat.pow_add, ← Nat.pow_add, Nat.add_left_comm, Nat.add_comm shift]
    have steps : Number.divideRounding numerator
        (denominator * 2 ^ shiftFor (numerator / denominator)) = 2 ^ 53 := full
    rw [toRat?_ofParts finite, steps]
    exact congrArg (fun steps => mkRat (signed negative steps) stepsPerUnit) (carried _)
  · exact toRat?_ofParts finite

/-- A number of steps that has to be shifted has a significand of full length. -/
theorem le_of_shiftFor {steps : Nat} (shifted : 0 < shiftFor steps) :
    2 ^ (52 + shiftFor steps) ≤ steps := by
  unfold shiftFor at shifted ⊢
  have exponent : 52 + (steps.log2 + 1 - 53) = steps.log2 := by omega
  rw [exponent]
  refine Nat.log2_self_le ?_
  rintro rfl
  simp at shifted

variable {significand exponent numerator denominator : Nat}

/-- What has to be shifted further than a double is larger than the double. -/
theorem lt_of_shiftFor (fits : Fits significand exponent) (positive : 0 < denominator)
    (coarse : exponent < shiftFor (numerator / denominator)) :
    significand * 2 ^ exponent < 2 ^ (52 + shiftFor (numerator / denominator)) ∧
      2 ^ (52 + shiftFor (numerator / denominator)) * denominator ≤ numerator := by
  have full := le_of_shiftFor (Nat.lt_of_le_of_lt (Nat.zero_le exponent) coarse)
  refine ⟨?_, (Nat.le_div_iff_mul_le positive).mp full⟩
  calc
    significand * 2 ^ exponent < 2 ^ 53 * 2 ^ exponent :=
      Nat.mul_lt_mul_of_pos_right fits.1 (Nat.two_pow_pos exponent)
    _ = 2 ^ (53 + exponent) := (Nat.pow_add 2 53 exponent).symm
    _ ≤ 2 ^ (52 + shiftFor (numerator / denominator)) :=
      Nat.pow_le_pow_right Nat.two_pos (by omega)

/-- A double is a multiple of every step that is not longer than its own. -/
theorem steps_split {shift : Nat} (fine : shift ≤ exponent) :
    significand * 2 ^ exponent = significand * 2 ^ (exponent - shift) * 2 ^ shift := by
  rw [Nat.mul_assoc, ← Nat.pow_add, Nat.sub_add_cancel fine]

theorem nearestSteps_le (fits : Fits significand exponent) (positive : 0 < denominator)
    (below : numerator ≤ significand * 2 ^ exponent * denominator) :
    nearestSteps numerator denominator ≤ significand * 2 ^ exponent := by
  rcases Nat.lt_or_ge exponent (shiftFor (numerator / denominator)) with coarse | fine
  · rcases lt_of_shiftFor fits positive coarse with ⟨small, large⟩
    have less := Nat.mul_lt_mul_of_pos_right small positive
    omega
  · have scaled : 0 < denominator * 2 ^ shiftFor (numerator / denominator) :=
      Nat.mul_pos positive (Nat.two_pow_pos _)
    rw [steps_split fine]
    refine Nat.mul_le_mul_right _ (Number.divideRounding_le scaled ?_)
    rw [steps_split fine, Nat.mul_assoc, Nat.mul_comm (2 ^ _)] at below
    exact below

theorem le_nearestSteps (fits : Fits significand exponent) (positive : 0 < denominator)
    (above : significand * 2 ^ exponent * denominator ≤ numerator) :
    significand * 2 ^ exponent ≤ nearestSteps numerator denominator := by
  have scaled : 0 < denominator * 2 ^ shiftFor (numerator / denominator) :=
    Nat.mul_pos positive (Nat.two_pow_pos _)
  rcases Nat.lt_or_ge exponent (shiftFor (numerator / denominator)) with coarse | fine
  · rcases lt_of_shiftFor fits positive coarse with ⟨small, large⟩
    refine small.le.trans ?_
    rw [Nat.pow_add, Nat.mul_assoc, Nat.mul_comm (2 ^ shiftFor _)] at large
    rw [Nat.pow_add]
    exact Nat.mul_le_mul_right _ (Number.le_divideRounding scaled large)
  · rw [steps_split fine, Nat.mul_assoc, Nat.mul_comm (2 ^ _)] at above
    rw [steps_split fine]
    exact Nat.mul_le_mul_right _ (Number.le_divideRounding scaled above)

/-! ## Limits -/

/-- A quotient of steps that is not beyond a double is not rounded beyond it. -/
theorem signed_nearestSteps_le (fits : Fits significand exponent) {negative : Bool} {steps : Int}
    (positive : 0 < denominator)
    (within : steps ≤ signed negative (significand * 2 ^ exponent) * denominator) :
    signed (steps < 0) (nearestSteps steps.natAbs denominator) ≤
      signed negative (significand * 2 ^ exponent) := by
  have small : steps.natAbs ≤ significand * 2 ^ exponent * denominator →
      nearestSteps steps.natAbs denominator ≤ significand * 2 ^ exponent :=
    nearestSteps_le fits positive
  have large : significand * 2 ^ exponent * denominator ≤ steps.natAbs →
      significand * 2 ^ exponent ≤ nearestSteps steps.natAbs denominator :=
    le_nearestSteps fits positive
  generalize significand * 2 ^ exponent = limit at within small large ⊢
  generalize nearestSteps steps.natAbs denominator = nearest at small large ⊢
  have scaled : ((limit * denominator : Nat) : Int) = limit * denominator :=
    Nat.cast_mul limit denominator
  cases negative with
  | false =>
      simp only [signed, Bool.false_eq_true, if_false] at within ⊢
      by_cases below : steps < 0
      · simp only [below, decide_true, if_true]
        omega
      · simp only [below, decide_false, Bool.false_eq_true, if_false]
        have := small (by omega)
        omega
  | true =>
      simp only [signed, if_true, Int.neg_mul] at within ⊢
      by_cases below : steps < 0
      · simp only [below, decide_true, if_true]
        have := large (by omega)
        omega
      · simp only [below, decide_false, Bool.false_eq_true, if_false]
        have none : limit = 0 :=
          Nat.eq_zero_of_not_pos fun some => by
            have := Nat.mul_pos some positive
            omega
        have := small (by omega)
        omega

theorem div_le_div_stepsPerUnit {left right : Int} (less : left ≤ right) :
    mkRat left stepsPerUnit ≤ mkRat right stepsPerUnit := by
  have positive : (0 : Rat) ≤ stepsPerUnit := Nat.cast_nonneg stepsPerUnit
  rw [Rat.mkRat_eq_div, Rat.mkRat_eq_div]
  exact div_le_div_of_nonneg_right (Int.cast_le.mpr less) positive

/-- Rounding takes nothing beyond a double that was not beyond it before. -/
theorem rounded_le {limit : Double} {bound value : Rat} (finite : limit.toRat? = some bound)
    (within : value ≤ bound) : rounded value ≤ bound := by
  cases nearest : (ofRat value).toRat? with
  | none =>
      rw [rounded, nearest]
      exact within
  | some result =>
      rw [rounded, nearest, Option.getD_some]
      rw [ofRat] at nearest
      cases limit with
      | finite negative significand exponent fits =>
          obtain rfl := Option.some.inj finite
          have unit : 0 < stepsPerUnit := by
            decide +kernel
          have steps : value.num * stepsPerUnit ≤
              signed negative (significand * 2 ^ exponent) * value.den := by
            rw [Rat.mkRat_eq_div, ← Rat.num_div_den value,
              div_le_div_iff₀ (Nat.cast_pos.mpr value.den_pos) (Nat.cast_pos.mpr unit)] at within
            exact_mod_cast within
          have sign : value < 0 ↔ value.num * stepsPerUnit < 0 := by
            have unit : (0 : Int) < stepsPerUnit := Int.natCast_pos.mpr unit
            rw [← Rat.num_neg]
            exact ⟨fun below => mul_neg_of_neg_of_pos below unit,
              fun below => neg_of_mul_neg_left below unit.le⟩
          have magnitude : (value.num * stepsPerUnit).natAbs =
              value.num.natAbs * stepsPerUnit := by
            rw [Int.natAbs_mul, Int.natAbs_natCast]
          have less := signed_nearestSteps_le fits value.den_pos steps
          rw [toRat?_nearest nearest]
          apply div_le_div_stepsPerUnit
          simp only [sign, ← magnitude]
          exact less
      | infinite negative =>
          cases finite
      | nan mark =>
          cases finite

end Double

namespace Service

/-- Rounding takes no span beyond a limit that the span is within. -/
def Faithful (rounding : Time → Time) : Prop :=
  ∀ {limit : Double} {bound elapsed : Time}, limit.toRat? = some bound → elapsed ≤ bound →
    rounding elapsed ≤ bound

theorem faithful_id : Faithful id :=
  fun _ within => within

theorem faithful_rounded : Faithful Double.rounded :=
  Double.rounded_le

theorem exceeds_eq {limit : Double} {bound : Time} (finite : limit.toRat? = some bound)
    (elapsed : Time) : exceeds elapsed limit = decide (bound < elapsed) := by
  cases limit with
  | finite negative significand exponent fits =>
      simp [exceeds, finite]
  | infinite negative =>
      cases finite
  | nan mark =>
      cases finite

/-- A span that is measured as longer than a limit is longer. -/
theorem lt_of_exceeds {rounding : Time → Time} (faithful : Faithful rounding) {limit : Double}
    {bound elapsed : Time} (finite : limit.toRat? = some bound)
    (exceeds : exceeds (rounding elapsed) limit = true) : bound < elapsed := by
  rw [exceeds_eq finite, decide_eq_true_iff] at exceeds
  by_contra within
  exact absurd (faithful finite (not_lt.mp within)) (not_le.mpr exceeds)

end Service
end DocumentGate
