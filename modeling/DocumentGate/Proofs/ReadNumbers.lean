import DocumentGate.Json.Writer
import DocumentGate.Proofs.OversizedNumbers

/-!
# Numbers of values that were read

A whole number is read only if it has no more digits than are written.  What an object keeps of
members with one name is among those that were read.  So every value that was read can be written
in full.
-/

namespace DocumentGate.Json

/-! ## Members -/

theorem anyMemberOversized_insert {key : String} {value : Json} {members : Members}
    (small : value.hasOversizedNumber = false) (fits : anyMemberOversized members = false) :
    anyMemberOversized (Dictionary.insert key value members) = false := by
  induction members with
  | nil =>
      exact Bool.or_eq_false_iff.mpr ⟨small, rfl⟩
  | cons first rest ih =>
      rcases Bool.or_eq_false_iff.mp fits with ⟨here, there⟩
      rw [Dictionary.insert]
      split
      · exact Bool.or_eq_false_iff.mpr ⟨small, there⟩
      · exact Bool.or_eq_false_iff.mpr ⟨here, ih there⟩

theorem anyMemberOversized_ofPairs {pairs : List (String × Json)}
    (fits : anyMemberOversized pairs = false) :
    anyMemberOversized (Dictionary.ofPairs pairs) = false := by
  -- Pairs are inserted one after the other, so the members that are there vary.
  have along : ∀ members : Members, anyMemberOversized members = false →
      anyMemberOversized (pairs.foldl (fun entries pair =>
        Dictionary.insert pair.1 pair.2 entries) members) = false := by
    induction pairs with
    | nil =>
        exact fun _ small => small
    | cons first rest ih =>
        rcases Bool.or_eq_false_iff.mp fits with ⟨here, there⟩
        exact fun members small => ih there _ (anyMemberOversized_insert here small)
  exact along [] rfl

/-! ## Values -/

theorem isOversized_of_readNumber {input after : List Char} {number : Number}
    (read : readNumber input = .ok (number, after)) : number.isOversized = false := by
  unfold readNumber at read
  split at read
  split at read
  rename_i whole afterWhole wholeFound
  split at read
  · cases read
  · rename_i nonempty
    split at read
    split at read
    split at read
    · split at read
      · cases read
      · rename_i short
        obtain rfl := (Prod.mk.inj (Except.ok.inj read)).1
        rw [Number.isOversized, Argument.natAbs_signed, decide_eq_false_iff_not]
        rcases Argument.spanWhole_spec wholeFound (by simpa using nonempty) with ⟨-, isWhole⟩
        exact fun large => short (isWhole.lt_length large)
    · obtain rfl := (Prod.mk.inj (Except.ok.inj read)).1
      rfl

/-- With so much fuel, no whole number that is read is too large to be written. -/
structure Limits (fuel : Nat) : Prop where
  value : ∀ {input after value}, readValue fuel input = .ok (value, after) →
    value.hasOversizedNumber = false
  elements : ∀ {input after elements}, readElements fuel input = .ok (elements, after) →
    anyOversized elements = false
  members : ∀ {input after members}, readMembers fuel input = .ok (members, after) →
    anyMemberOversized members = false

namespace Limits

variable {fuel : Nat} {input after : List Char}

theorem value_succ (limits : Limits fuel) {value : Json}
    (read : readValue (fuel + 1) input = .ok (value, after)) :
    value.hasOversizedNumber = false := by
  unfold readValue at read
  split at read
  · rcases bind_eq_ok read with ⟨⟨text, rest⟩, -, same⟩
    obtain rfl := (Prod.mk.inj (Except.ok.inj same)).1
    rfl
  · split at read
    · obtain rfl := (Prod.mk.inj (Except.ok.inj read)).1
      rfl
    · rcases bind_eq_ok read with ⟨⟨members, rest⟩, found, same⟩
      obtain rfl := (Prod.mk.inj (Except.ok.inj same)).1
      exact anyMemberOversized_ofPairs (limits.members found)
  · split at read
    · obtain rfl := (Prod.mk.inj (Except.ok.inj read)).1
      rfl
    · rcases bind_eq_ok read with ⟨⟨elements, rest⟩, found, same⟩
      obtain rfl := (Prod.mk.inj (Except.ok.inj same)).1
      exact limits.elements found
  case h_10 =>
    rcases bind_eq_ok read with ⟨⟨number, rest⟩, found, same⟩
    obtain rfl := (Prod.mk.inj (Except.ok.inj same)).1
    exact isOversized_of_readNumber found
  -- The names that stand for values are left.
  all_goals
    obtain rfl := (Prod.mk.inj (Except.ok.inj read)).1
    rfl

theorem elements_succ (limits : Limits fuel) {elements : List Json}
    (read : readElements (fuel + 1) input = .ok (elements, after)) :
    anyOversized elements = false := by
  rw [readElements] at read
  rcases bind_eq_ok read with ⟨⟨element, rest⟩, first, read⟩
  have small := limits.value first
  dsimp only at read
  split at read
  · obtain rfl := (Prod.mk.inj (Except.ok.inj read)).1
    exact Bool.or_eq_false_iff.mpr ⟨small, rfl⟩
  · rcases bind_eq_ok read with ⟨⟨others, last⟩, further, same⟩
    obtain rfl := (Prod.mk.inj (Except.ok.inj same)).1
    exact Bool.or_eq_false_iff.mpr ⟨small, limits.elements further⟩
  · cases read

theorem members_succ (limits : Limits fuel) {members : List (String × Json)}
    (read : readMembers (fuel + 1) input = .ok (members, after)) :
    anyMemberOversized members = false := by
  unfold readMembers at read
  split at read
  · rcases bind_eq_ok read with ⟨⟨key, afterKey⟩, -, read⟩
    dsimp only at read
    split at read
    · rcases bind_eq_ok read with ⟨⟨value, rest⟩, first, read⟩
      have small := limits.value first
      dsimp only at read
      split at read
      · obtain rfl := (Prod.mk.inj (Except.ok.inj read)).1
        exact Bool.or_eq_false_iff.mpr ⟨small, rfl⟩
      · rcases bind_eq_ok read with ⟨⟨others, last⟩, further, same⟩
        obtain rfl := (Prod.mk.inj (Except.ok.inj same)).1
        exact Bool.or_eq_false_iff.mpr ⟨small, limits.members further⟩
      · cases read
    · cases read
  · cases read

end Limits

theorem limits (fuel : Nat) : Limits fuel := by
  induction fuel with
  | zero =>
      refine ⟨?_, ?_, ?_⟩ <;>
        intro input after result read
      · rw [readValue] at read
        cases read
      · rw [readElements] at read
        cases read
      · rw [readMembers] at read
        cases read
  | succ fuel ih =>
      exact ⟨ih.value_succ, ih.elements_succ, ih.members_succ⟩

/-- Every value that a text is can be written in full. -/
theorem fits_of_read {text : String} {value : Json} (accepted : read text = .ok value) :
    value.hasOversizedNumber = false := by
  have found := mapError_eq_ok accepted
  unfold readChars at found
  split at found
  · cases found
  · rcases bind_eq_ok found with ⟨⟨inner, after⟩, first, found⟩
    dsimp only at found
    split at found
    · obtain rfl := Except.ok.inj found
      exact (limits _).value first
    · cases found

end DocumentGate.Json
