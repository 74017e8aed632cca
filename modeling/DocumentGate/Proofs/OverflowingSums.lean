import DocumentGate.Proofs.Results
import DocumentGate.Proofs.RoundedSpans
import DocumentGate.Store.Memory

/-!
# Sums that overflow

A whole number of any size may stand in a document, and a double may be added to it.  The whole
number is rounded to a double first, and there is none for it from half a step beyond the largest
double on.  This is the one failure of an update that is not a refusal: the sum has no value, and
the update ends there.
-/

namespace DocumentGate

namespace Number

/-- Rounding goes up from an odd number where half of the way to the next one is reached. -/
theorem lt_divideRounding_iff {numerator denominator quotient : Nat} (positive : 0 < denominator)
    (odd : quotient % 2 = 1) :
    quotient < divideRounding numerator denominator ↔
      (2 * quotient + 1) * denominator ≤ 2 * numerator := by
  have split := Nat.div_add_mod numerator denominator
  have small := Nat.mod_lt numerator positive
  rw [Nat.mul_comm] at split
  unfold divideRounding
  dsimp only
  generalize numerator / denominator = whole at split ⊢
  generalize numerator % denominator = rest at split small ⊢
  have expand : (2 * quotient + 1) * denominator =
      2 * (quotient * denominator) + denominator := by
    rw [Nat.add_mul, Nat.mul_assoc, Nat.one_mul]
  rw [expand]
  rcases Nat.lt_trichotomy whole quotient with below | rfl | above
  · have next : (whole + 1) * denominator ≤ quotient * denominator :=
      Nat.mul_le_mul_right denominator below
    rw [Nat.add_mul, Nat.one_mul] at next
    split <;>
      omega
  · simp only [odd]
    split
    · rename_i near
      simp at near
      omega
    · rename_i far
      simp at far
      omega
  · have next : (quotient + 1) * denominator ≤ whole * denominator :=
      Nat.mul_le_mul_right denominator above
    rw [Nat.add_mul, Nat.one_mul] at next
    split <;>
      omega

end Number

namespace Double

/-- Whole numbers of this magnitude and above are rounded beyond the largest double. -/
def integerLimit : Nat :=
  2 ^ 1024 - 2 ^ 970

theorem isSome_toRat?_ofParts {negative : Bool} {significand exponent : Nat} :
    (ofParts negative significand exponent).toRat?.isSome = true ↔ Fits significand exponent := by
  rw [ofParts]
  split
  · rename_i fits
    exact ⟨fun _ => fits, fun _ => rfl⟩
  · rename_i large
    exact ⟨fun finite => absurd finite Bool.false_ne_true, fun fits => absurd fits large⟩

section Steps

variable {steps : Nat}

/-- A significand that was rounded has at most one bit too many. -/
theorem significand_le (steps : Nat) :
    Number.divideRounding steps (2 ^ shiftFor steps) ≤ 2 ^ 53 := by
  apply Number.divideRounding_le (Nat.two_pow_pos _)
  rw [← Nat.pow_add]
  refine Nat.le_of_lt (Nat.lt_log2_self.trans_le (Nat.pow_le_pow_right Nat.two_pos ?_))
  rw [shiftFor]
  omega

/-- A significand that was shifted has full length. -/
theorem le_significand (shifted : 0 < shiftFor steps) :
    2 ^ 52 ≤ Number.divideRounding steps (2 ^ shiftFor steps) := by
  apply Number.le_divideRounding (Nat.two_pow_pos _)
  rw [← Nat.pow_add]
  exact le_of_shiftFor shifted

/-- A number of steps is shifted and rounded, and shifted once more where the rounding carries. -/
theorem nearest_one (negative : Bool) (steps : Nat) :
    nearest negative steps 1 =
      if Number.divideRounding steps (2 ^ shiftFor steps) = 2 ^ 53
      then ofParts negative (2 ^ 52) (shiftFor steps + 1)
      else ofParts negative (Number.divideRounding steps (2 ^ shiftFor steps)) (shiftFor steps) := by
  rw [nearest, Nat.div_one, Nat.one_mul]
  rfl

/-- A number of steps has a nearest double unless it is shifted too far, the carry included. -/
theorem isSome_toRat?_nearest {negative : Bool} :
    (nearest negative steps 1).toRat?.isSome = true ↔
      shiftFor steps < 2045 ∨
        shiftFor steps = 2045 ∧ Number.divideRounding steps (2 ^ shiftFor steps) < 2 ^ 53 := by
  have most := significand_le steps
  have least := @le_significand steps
  rw [nearest_one]
  change 0 < shiftFor steps → 2 ^ 52 ≤ Number.divideRounding steps (2 ^ shiftFor steps) at least
  generalize Number.divideRounding steps (2 ^ shiftFor steps) = significand at most least ⊢
  split
  · rename_i full
    rw [isSome_toRat?_ofParts, Fits, full]
    change 2 ^ 52 < 2 ^ 53 ∧ _ ∧ (_ ∨ 2 ^ 52 ≤ 2 ^ 52) ↔ _
    omega
  · rename_i short
    rw [isSome_toRat?_ofParts, Fits]
    change significand < 2 ^ 53 ∧ _ ∧ (_ ∨ 2 ^ 52 ≤ significand) ↔ _
    omega

end Steps

/-- A number of steps lies below the first one that is shifted further. -/
theorem lt_of_shiftFor_le {steps shift : Nat} (within : shiftFor steps ≤ shift) :
    steps < 2 ^ (53 + shift) := by
  refine Nat.lt_log2_self.trans_le (Nat.pow_le_pow_right Nat.two_pos ?_)
  rw [shiftFor] at within
  omega

/-- The double of a whole number is the nearest one, if that one is finite. -/
theorem ofInteger?_eq_filter (value : Int) :
    ofInteger? value =
      (some (nearest (value < 0) (value.natAbs * stepsPerUnit) 1)).filter (·.toRat?.isSome) := by
  -- The function is unfolded before it is applied: no step may look into the number of steps.
  have unfolded : ofInteger? = ofInteger? := rfl
  conv at unfolded =>
    rhs
    delta ofInteger?
  rw [unfolded]
  beta_reduce
  generalize nearest _ _ 1 = result
  cases result with
  | finite negative significand exponent fits =>
      rw [Option.filter_some, toRat?, Option.isSome_some, if_pos rfl]
  | infinite | nan =>
      rfl

theorem isSome_ofInteger? (value : Int) :
    (ofInteger? value).isSome =
      (nearest (value < 0) (value.natAbs * stepsPerUnit) 1).toRat?.isSome := by
  rw [ofInteger?_eq_filter, Option.isSome_filter, Option.any_some]

/-- Whether a magnitude has a nearest double, counted in steps of such a unit. -/
theorem isSome_toRat?_units {negative : Bool} {magnitude unit : Nat} (positive : 0 < unit)
    (below : 2 ^ 1023 * unit = 2 ^ 2097) (above : integerLimit * unit ≤ 2 ^ 2098)
    (half : 2 * (integerLimit * unit) = (2 * (2 ^ 53 - 1) + 1) * 2 ^ 2045) :
    (nearest negative (magnitude * unit) 1).toRat?.isSome = true ↔ magnitude < integerLimit := by
  rw [isSome_toRat?_nearest]
  rcases Nat.lt_trichotomy (shiftFor (magnitude * unit)) 2045 with fine | full | coarse
  · refine iff_of_true (Or.inl fine) ?_
    have small := lt_of_shiftFor_le (show shiftFor (magnitude * unit) ≤ 2044 by omega)
    rw [show 53 + 2044 = 2097 from rfl, ← below] at small
    exact (Nat.lt_of_mul_lt_mul_right small).trans (by decide +kernel)
  · have wide : 0 < 2 ^ 2045 := by
      decide +kernel
    rw [full]
    clear full below above
    generalize 2 ^ 2045 = widest at half wide ⊢
    have rounds : 2 ^ 53 - 1 < Number.divideRounding (magnitude * unit) widest ↔
        integerLimit ≤ magnitude := by
      rw [Number.lt_divideRounding_iff wide (by decide), ← half,
        Nat.mul_le_mul_left_iff Nat.two_pos, Nat.mul_le_mul_right_iff positive]
    clear half
    omega
  · refine iff_of_false (by omega) (Nat.not_lt.mpr ?_)
    have further : 2098 ≤ 52 + shiftFor (magnitude * unit) := by omega
    have large : 2 ^ (52 + shiftFor (magnitude * unit)) ≤ magnitude * unit :=
      le_of_shiftFor (Nat.lt_of_le_of_lt (Nat.zero_le 2045) coarse)
    have widest : 2 ^ 2098 ≤ 2 ^ (52 + shiftFor (magnitude * unit)) :=
      pow_le_pow_right₀ one_le_two further
    exact Nat.le_of_mul_le_mul_right (above.trans (widest.trans large)) positive

/-- There is a double for the whole numbers below the limit and for no others. -/
theorem ofInteger?_eq_none_iff {value : Int} :
    ofInteger? value = none ↔ integerLimit ≤ value.natAbs := by
  rw [← Option.isNone_iff_eq_none, ← Option.isSome_eq_false_iff, isSome_ofInteger?,
    Bool.eq_false_iff, ne_eq,
    isSome_toRat?_units (by decide +kernel) (by decide +kernel) (by decide +kernel)
      (by decide +kernel), Nat.not_lt]

end Double

/-! ## Sums of numbers -/

namespace Number

/-- A whole number for which there is no double meets a double. -/
def overflows : Number → Number → Bool
  | .integer value, .double _ => Double.integerLimit ≤ value.natAbs
  | .double _, .integer value => Double.integerLimit ≤ value.natAbs
  | _, _ => false

theorem add?_eq_none_iff (mark : Nat) (left right : Number) :
    left.add? mark right = none ↔ left.overflows right = true := by
  cases left with
  | integer left =>
      cases right with
      | integer right =>
          exact iff_of_false (Option.some_ne_none _) Bool.false_ne_true
      | double right =>
          rw [add?, Option.map_eq_none_iff, Double.ofInteger?_eq_none_iff, overflows,
            decide_eq_true_iff]
  | double left =>
      cases right with
      | integer right =>
          rw [add?, Option.map_eq_none_iff, Double.ofInteger?_eq_none_iff, overflows,
            decide_eq_true_iff]
      | double right =>
          exact iff_of_false (Option.some_ne_none _) Bool.false_ne_true

end Number

/-! ## Changes and updates -/

/-- The change adds an amount to a number with which it overflows. -/
def Change.overflows (document : Document) : Change → Bool
  | .increase path amount =>
    match (document.lookup path).getD (.integer 0) with
    | .number current => current.overflows amount
    | _ => false
  | _ => false

namespace Update

theorem increased_eq_tooLarge_iff {mark : Nat} {path : String} {found : Option Json}
    {amount : Number} :
    increased mark path found amount = .error .integerTooLarge ↔
      ∃ current, found.getD (.integer 0) = .number current ∧ current.overflows amount = true := by
  have sums : ∀ current : Number,
      increased mark path (some (.number current)) amount = .error .integerTooLarge ↔
        current.overflows amount = true := by
    intro current
    rw [← Number.add?_eq_none_iff mark]
    cases added : current.add? mark amount with
    | none =>
        exact iff_of_true (by simp [increased, added]) rfl
    | some total =>
        exact iff_of_false (by simp [increased, added]) (Option.some_ne_none total)
  have numeric : ∀ current : Number,
      (∃ other, Json.number current = .number other ∧ other.overflows amount = true) ↔
        current.overflows amount = true := by
    intro current
    simp only [Json.number.injEq, exists_eq_left']
  cases found with
  | none =>
      exact (sums (.integer 0)).trans (numeric (.integer 0)).symm
  | some value =>
      cases value with
      | number current =>
          exact (sums current).trans (numeric current).symm
      | _ =>
          simp [increased]

theorem applyChange_eq_tooLarge_iff {mark : Nat} {document : Document} {change : Change} :
    applyChange mark document change = .error .integerTooLarge ↔
      change.overflows document = true := by
  cases change with
  | set path value =>
      exact iff_of_false nofun Bool.false_ne_true
  | unset path =>
      exact iff_of_false nofun Bool.false_ne_true
  | increase path amount =>
      have only : applyChange mark document (.increase path amount) = .error .integerTooLarge ↔
          increased mark path (document.lookup path) amount = .error .integerTooLarge := by
        rw [applyChange, bind_eq_error_iff]
        exact or_iff_left fun ⟨_, _, failed⟩ => nomatch failed
      rw [only, increased_eq_tooLarge_iff, Change.overflows]
      cases (document.lookup path).getD (.integer 0) with
      | number current =>
          exact ⟨fun ⟨other, same, overflows⟩ => Json.number.inj same ▸ overflows,
            fun overflows => ⟨current, rfl, overflows⟩⟩
      | _ =>
          exact iff_of_false (fun ⟨_, same, _⟩ => nomatch same) Bool.false_ne_true

/-- The first change that cannot be made ends the run over the changes. -/
theorem foldlM_eq_error_iff {α β ε : Type} {step : β → α → Except ε β} {fault : ε}
    {items : List α} {start : β} : items.foldlM step start = .error fault ↔
      ∃ before item after, items = before ++ item :: after ∧
        ∃ reached, before.foldlM step start = .ok reached ∧ step reached item = .error fault := by
  induction items generalizing start with
  | nil =>
      refine iff_of_false nofun ?_
      rintro ⟨before, item, after, same, -⟩
      exact absurd same.symm (by simp)
  | cons first rest ih =>
      rw [List.foldlM_cons, bind_eq_error_iff]
      constructor
      · rintro (fails | ⟨next, stepped, failed⟩)
        · exact ⟨[], first, rest, rfl, start, rfl, fails⟩
        · rcases ih.mp failed with ⟨before, item, after, rfl, reached, reaches, fails⟩
          refine ⟨first :: before, item, after, rfl, reached, ?_, fails⟩
          rw [List.foldlM_cons, stepped]
          exact reaches
      · rintro ⟨before, item, after, same, reached, reaches, fails⟩
        cases before with
        | nil =>
            rcases List.cons.inj same with ⟨rfl, rfl⟩
            obtain rfl := Except.ok.inj reaches
            exact .inl fails
        | cons other before =>
            rcases List.cons.inj same with ⟨rfl, rfl⟩
            rw [List.foldlM_cons] at reaches
            rcases bind_eq_ok reaches with ⟨next, stepped, reaches⟩
            exact .inr ⟨next, stepped, ih.mpr ⟨before, item, after, rfl, reached, reaches, fails⟩⟩

/-- The update adds to a number with which the amount overflows, after changes that are made. -/
def Overflows (update : Update) (document : Document) : Prop :=
  ∃ before change after, update = before ++ change :: after ∧
    ∃ reached, before.foldlM (applyChange (Json.object document).freshMark) document = .ok reached ∧
      change.overflows reached = true

theorem apply_eq_tooLarge_iff {update : Update} {document : Document} :
    update.apply document = .error .integerTooLarge ↔ update.Overflows document := by
  rw [apply, foldlM_eq_error_iff]
  simp only [applyChange_eq_tooLarge_iff]
  rfl

end Update

/-! ## Documents of a cluster -/

namespace Store.Cluster

variable {filter : Filter} {update : Update} {many : Bool} {documents : List Document}
  {cause : Update.Failure}

/-- The update fails so on the first of the documents for which it cannot be made. -/
def FailsFirst (filter : Filter) (update : Update) (many : Bool) (documents : List Document)
    (cause : Update.Failure) : Prop :=
  ∃ before document after, documents = before ++ document :: after ∧
    filter.matches document = true ∧ update.apply document = .error cause ∧
    ∀ earlier ∈ before, filter.matches earlier = true →
      many = true ∧ ∃ updated, update.apply earlier = .ok updated

theorem FailsFirst.later {document : Document}
    (fails : FailsFirst filter update many documents cause)
    (passes : filter.matches document = true →
      many = true ∧ ∃ updated, update.apply document = .ok updated) :
    FailsFirst filter update many (document :: documents) cause := by
  rcases fails with ⟨before, failing, after, rfl, met, failed, earlier⟩
  exact ⟨document :: before, failing, after, rfl, met, failed,
    List.forall_mem_cons.mpr ⟨passes, earlier⟩⟩

theorem failsFirst_cons {document : Document} :
    FailsFirst filter update many (document :: documents) cause ↔
      filter.matches document = true ∧ update.apply document = .error cause ∨
        (filter.matches document = true →
          many = true ∧ ∃ updated, update.apply document = .ok updated) ∧
          FailsFirst filter update many documents cause := by
  constructor
  · rintro ⟨before, failing, after, same, met, failed, earlier⟩
    cases before with
    | nil =>
        rcases List.cons.inj same with ⟨rfl, rfl⟩
        exact .inl ⟨met, failed⟩
    | cons first before =>
        rcases List.cons.inj same with ⟨rfl, rfl⟩
        rw [List.forall_mem_cons] at earlier
        exact .inr ⟨earlier.1, before, failing, after, rfl, met, failed, earlier.2⟩
  · rintro (⟨met, failed⟩ | ⟨passes, fails⟩)
    · exact ⟨[], document, documents, rfl, met, failed, nofun⟩
    · exact fails.later passes

/-- The others, and the document in front of them as the update makes it. -/
def Revision.noting (others : Revision) (document updated : Document) : Revision :=
  if Json.equals (.object updated) (.object document) then
    ⟨document :: others.documents, others.matched + 1, others.modified⟩
  else ⟨updated :: others.documents, others.matched + 1, others.modified + 1⟩

/-- What is made of the documents after the first one that the update is meant for. -/
def reviseFurther (filter : Filter) (update : Update) (many : Bool) (documents : List Document) :
    Except Update.Failure Revision :=
  if many then revise filter update many documents else .ok ⟨documents, 0, 0⟩

theorem revise_cons_of_matches {document : Document} (met : filter.matches document = true) :
    revise filter update many (document :: documents) = (do
      let updated ← update.apply document
      let others ← reviseFurther filter update many documents
      return others.noting document updated) := by
  rw [revise, if_pos met]
  cases update.apply document with
  | error failed =>
      rfl
  | ok updated =>
      have noted : ∀ others : Revision,
          (if Json.equals (.object updated) (.object document) then
            pure ⟨document :: others.documents, others.matched + 1, others.modified⟩
          else pure ⟨updated :: others.documents, others.matched + 1, others.modified + 1⟩ :
            Except Update.Failure Revision) = pure (others.noting document updated) := by
        intro others
        rw [Revision.noting, apply_ite pure]
      dsimp only [bind, Except.bind]
      cases many with
      | true =>
          rw [if_pos rfl, reviseFurther, if_pos rfl]
          cases revise filter update true documents with
          | error failed =>
              rfl
          | ok others =>
              exact noted others
      | false =>
          exact noted ⟨documents, 0, 0⟩

/-- Updating fails where the first document that cannot be updated does. -/
theorem revise_eq_error_iff :
    revise filter update many documents = .error cause ↔
      FailsFirst filter update many documents cause := by
  induction documents with
  | nil =>
      refine iff_of_false nofun ?_
      rintro ⟨before, document, after, same, -⟩
      exact absurd same.symm (by simp)
  | cons document rest ih =>
      rw [failsFirst_cons]
      cases met : filter.matches document with
      | true =>
          have further : reviseFurther filter update many rest = .error cause ↔
              many = true ∧ FailsFirst filter update many rest cause := by
            cases many with
            | true =>
                exact ih.trans (and_iff_right rfl).symm
            | false =>
                exact iff_of_false nofun fun fails => Bool.false_ne_true fails.1
          rw [revise_cons_of_matches met, bind_eq_error_iff]
          constructor
          · rintro (failed | ⟨updated, applied, failed⟩)
            · exact .inl ⟨rfl, failed⟩
            · rcases bind_eq_error_iff.mp failed with failed | ⟨others, -, noted⟩
              · rcases further.mp failed with ⟨all, fails⟩
                exact .inr ⟨fun _ => ⟨all, updated, applied⟩, fails⟩
              · cases noted
          · rintro (⟨-, failed⟩ | ⟨passes, fails⟩)
            · exact .inl failed
            · rcases passes rfl with ⟨all, updated, applied⟩
              exact .inr ⟨updated, applied, bind_eq_error_iff.mpr (.inl (further.mpr ⟨all, fails⟩))⟩
      | false =>
          rw [revise, met, if_neg Bool.false_ne_true, bind_eq_error_iff, ih]
          constructor
          · rintro (fails | ⟨others, -, kept⟩)
            · exact .inr ⟨fun met => absurd met Bool.false_ne_true, fails⟩
            · cases kept
          · rintro (⟨met, -⟩ | ⟨-, fails⟩)
            · cases met
            · exact .inl fails

/-- The update adds to a number with which an amount overflows, and no failure comes before. -/
def Overflows (filter : Filter) (update : Update) (many : Bool) (documents : List Document) :
    Prop :=
  ∃ before document after, documents = before ++ document :: after ∧
    filter.matches document = true ∧ update.Overflows document ∧
    ∀ earlier ∈ before, filter.matches earlier = true →
      many = true ∧ ∃ updated, update.apply earlier = .ok updated

theorem revise_eq_tooLarge_iff :
    revise filter update many documents = .error .integerTooLarge ↔
      Overflows filter update many documents := by
  rw [revise_eq_error_iff, FailsFirst]
  simp only [Update.apply_eq_tooLarge_iff]
  rfl

end Store.Cluster

end DocumentGate
