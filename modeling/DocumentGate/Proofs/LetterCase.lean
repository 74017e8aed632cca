import DocumentGate.Argument.Token
import DocumentGate.Text.Lowercase

/-!
# Letter case

Lower case leaves every character that is not a letter, and it makes a letter of the ASCII range
only of such a letter, with one exception: the Kelvin sign becomes a `k`.  Texts of the ASCII range
therefore have the same lower case if and only if they differ in the case of letters only.
-/

namespace DocumentGate.Text

/-! ## The ASCII range -/

/-- What holds of each code of the ASCII range holds of each character in it. -/
theorem of_ascii (property : Char → Prop) (each : ∀ code < 0x80, property (.ofNat code))
    {character : Char} (ascii : character.toNat < 0x80) : property character := by
  rw [← character.ofNat_toNat]
  exact each character.toNat ascii

theorem toLower_of_beyond {character : Char} (beyond : 0x80 ≤ character.toNat) :
    character.toLower = character := by
  have above : ¬character.val ≤ 'Z'.val := by
    show ¬character.toNat ≤ 0x5A
    omega
  exact dif_neg fun within => above within.2

/-- Letter case does not matter to what is a letter, a digit or an underscore. -/
theorem isNamePart_toLower (character : Char) :
    Argument.isNamePart character.toLower = Argument.isNamePart character := by
  by_cases ascii : character.toNat < 0x80
  · exact of_ascii (fun character =>
      Argument.isNamePart character.toLower = Argument.isNamePart character) (by decide) ascii
  · rw [toLower_of_beyond (Nat.le_of_not_lt ascii)]

theorem isNameStart_toLower (character : Char) :
    Argument.isNameStart character.toLower = Argument.isNameStart character := by
  by_cases ascii : character.toNat < 0x80
  · exact of_ascii (fun character =>
      Argument.isNameStart character.toLower = Argument.isNameStart character) (by decide) ascii
  · rw [toLower_of_beyond (Nat.le_of_not_lt ascii)]

/-! ## Lower case of characters -/

theorem lowerCharacter_of_ascii {character : Char} (ascii : character.toNat < 0x80) :
    lowerCharacter character = character.toLower := by
  have others : ∀ run ∈ capitalRuns.tail, run.moved? character.toNat = none := by
    have beyond : ∀ run ∈ capitalRuns.tail, 0x80 ≤ run.first := by decide +kernel
    intro run member
    have above : ¬run.first ≤ character.toNat := by have := beyond run member; omega
    simp [LetterRun.moved?, above]
  have letters : lowerCharacter character =
      ((⟨0x41, 0x5A, 1, 0x61⟩ : LetterRun).moved? character.toNat).elim character Char.ofNat := by
    rw [lowerCharacter, show capitalRuns = ⟨0x41, 0x5A, 1, 0x61⟩ :: capitalRuns.tail from rfl,
      List.findSome?_cons, List.findSome?_eq_none_iff.mpr others]
    cases (⟨0x41, 0x5A, 1, 0x61⟩ : LetterRun).moved? character.toNat <;> rfl
  rw [letters]
  exact of_ascii (fun character =>
    ((⟨0x41, 0x5A, 1, 0x61⟩ : LetterRun).moved? character.toNat).elim character Char.ofNat =
      character.toLower) (by decide) ascii

/--
Where the letters of a run have their lower-case forms: the run lies in the ASCII range, it is the
Kelvin sign, or its forms lie beyond that range and are characters.
-/
theorem capitalRuns_forms : ∀ run ∈ capitalRuns, run.last < 0x80 ∨
    (run.first = 0x212A ∧ run.last = 0x212A ∧ run.target = 0x6B) ∨
    (0x80 ≤ run.target ∧ run.target + (run.last - run.first) < 0xD800) ∨
    (0xE000 ≤ run.target ∧ run.target + (run.last - run.first) < 0x110000) := by
  decide +kernel

theorem toNat_ofNat_of_valid {code : Nat} (valid : code.isValidChar) :
    (Char.ofNat code).toNat = code := by
  rw [Char.ofNat, dif_pos valid]
  rfl

/-- Of characters beyond the ASCII range only the Kelvin sign has its lower case in it. -/
theorem ascii_of_lowerCharacter {character : Char}
    (lowered : (lowerCharacter character).toNat < 0x80) :
    character.toNat < 0x80 ∨ lowerCharacter character = 'k' := by
  unfold lowerCharacter at lowered ⊢
  split at lowered
  · rename_i code found
    rcases List.exists_of_findSome?_eq_some found with ⟨run, member, moved⟩
    unfold LetterRun.moved? at moved
    split at moved
    · rename_i within
      simp only [Bool.and_eq_true, decide_eq_true_eq] at within
      have form := Option.some.inj moved
      rcases capitalRuns_forms run member with inside | ⟨first, last, target⟩ | below | above
      · exact Or.inl (by omega)
      · refine Or.inr ?_
        have code : code = 0x6B := by omega
        subst code
        rfl
      · have valid : code.isValidChar := Or.inl (by omega)
        rw [toNat_ofNat_of_valid valid] at lowered
        omega
      · have valid : code.isValidChar := Or.inr ⟨by omega, by omega⟩
        rw [toNat_ofNat_of_valid valid] at lowered
        omega
    · cases moved
  · exact Or.inl lowered

/-! ## Lower case of texts -/

/-- Characters of ASCII in front of a text go letter by letter. -/
theorem lowerOnto_append_of_ascii {front : List Char}
    (ascii : ∀ character ∈ front, character.toNat < 0x80) (before rest : List Char) :
    lowerOnto before (front ++ rest) =
      front.map Char.toLower ++ lowerOnto (front.reverse ++ before) rest := by
  induction front generalizing before with
  | nil =>
      rfl
  | cons first further ih =>
      rcases List.forall_mem_cons.mp ascii with ⟨small, later⟩
      have plain : (first.toNat == 0x130) = false ∧ (first.toNat == 0x3A3) = false := by
        simp only [beq_eq_false_iff_ne]
        omega
      rw [List.cons_append, lowerOnto, ih later]
      simp [plain, lowerCharacter_of_ascii small]

/-- A text without a letter whose lower case depends on those around it goes letter by letter. -/
theorem lowerOnto_of_ascii {characters : List Char}
    (ascii : ∀ character ∈ characters, character.toNat < 0x80) (before : List Char) :
    lowerOnto before characters = characters.map Char.toLower := by
  simpa [lowerOnto] using lowerOnto_append_of_ascii ascii before []

/-- A text whose lower case lies in the ASCII range and has no `k` lies in that range itself. -/
theorem ascii_of_lowerOnto (before : List Char) {characters : List Char}
    (lowered : ∀ character ∈ lowerOnto before characters,
      character.toNat < 0x80 ∧ character ≠ 'k') :
    ∀ character ∈ characters, character.toNat < 0x80 := by
  induction characters generalizing before with
  | nil =>
      exact fun _ => nofun
  | cons first rest ih =>
      rw [lowerOnto] at lowered
      have later := ih _ fun character member => lowered character (List.mem_append_right _ member)
      have here := fun character member => lowered character (List.mem_append_left _ member)
      refine List.forall_mem_cons.mpr ⟨?_, later⟩
      split at here
      · have dot := (here (Char.ofNat 0x307) (by simp)).1
        simp at dot
      · split at here
        · have sigma := (here _ (List.mem_singleton_self _)).1
          unfold lowerSigma at sigma
          split at sigma <;> simp at sigma
        · have single := here _ (List.mem_singleton_self _)
          exact (ascii_of_lowerCharacter single.1).resolve_right single.2

/-- Lower case does not shorten a text. -/
theorem length_le_lowerOnto (before characters : List Char) :
    characters.length ≤ (lowerOnto before characters).length := by
  induction characters generalizing before with
  | nil =>
      exact Nat.le_refl 0
  | cons first rest ih =>
      have further := ih (first :: before)
      rw [lowerOnto, List.length_append, List.length_cons]
      split
      · rw [List.length_cons]
        omega
      · split <;> rw [List.length_singleton] <;> omega

/-! ## Texts that differ in case only -/

/-- The texts differ in the case of ASCII letters at most. -/
def AlikeInCase (left right : List Char) : Prop :=
  left.map Char.toLower = right.map Char.toLower

theorem lower_eq_iff_of_ascii {left right : List Char}
    (leftAscii : ∀ character ∈ left, character.toNat < 0x80)
    (rightAscii : ∀ character ∈ right, character.toNat < 0x80) :
    lower (String.ofList left) = lower (String.ofList right) ↔ AlikeInCase left right := by
  simp only [lower, String.toList_ofList, lowerOnto_of_ascii leftAscii,
    lowerOnto_of_ascii rightAscii, String.ofList_inj, AlikeInCase]

end DocumentGate.Text
