import DocumentGate.Proofs.LetterCase

/-!
# Texts in lower case

A text in lower case stays as it is when it is put into lower case again: no form of a letter is
itself a letter that has one, and a small sigma is kept in both of its forms.

Characters that are neither letters with a form nor forms are caseless.  Lower case keeps each of
them as often as it stands in a text, so that it neither moves nor makes the marks that part texts.
-/

namespace DocumentGate.Text

/-! ## Forms of letters -/

theorem capitalRuns_valid : ∀ run ∈ capitalRuns,
    run.target + (run.last - run.first) < 0xD800 ∨
      (0xE000 ≤ run.target ∧ run.target + (run.last - run.first) < 0x110000) := by
  decide +kernel

/--
The forms of the run lie before the letters of the other one, behind them, or between letters of
which every second code is one.
-/
def LetterRun.isApart (run other : LetterRun) : Bool :=
  (run.target + (run.last - run.first)).blt other.first || other.last.blt run.target ||
    (other.step == 2 && (run.step == 2 || run.first == run.last) &&
      (run.target + other.first) % 2 == 1)

theorem capitalRuns_apart :
    (capitalRuns.all fun run => capitalRuns.all run.isApart) = true := by
  decide +kernel

/-- No form is one of the two letters that follow rules of their own. -/
theorem capitalRuns_plain : ∀ run ∈ capitalRuns, ∀ code ∈ [0x130, 0x3A3],
    run.target + (run.last - run.first) < code ∨ code < run.target ∨
      (run.step = 2 ∧ (run.target + code) % 2 = 1) := by
  decide +kernel

/-- The letter is one of the run, and this is its form. -/
structure LetterRun.Forms (run : LetterRun) (character form : Char) : Prop where
  member : run ∈ capitalRuns
  lower : run.first ≤ character.toNat
  upper : character.toNat ≤ run.last
  step : (character.toNat - run.first) % run.step = 0
  form : form.toNat = run.target + (character.toNat - run.first)

/-- A character that is not the letter of any run is kept; every other one has its form. -/
theorem lowerCharacter_cases (character : Char) :
    lowerCharacter character = character ∨
      ∃ run : LetterRun, run.Forms character (lowerCharacter character) := by
  unfold lowerCharacter
  split
  · rename_i code found
    rcases List.exists_of_findSome?_eq_some found with ⟨run, member, moved⟩
    unfold LetterRun.moved? at moved
    split at moved
    · rename_i within
      simp only [Bool.and_eq_true, decide_eq_true_eq, beq_iff_eq] at within
      obtain ⟨⟨lower, upper⟩, step⟩ := within
      obtain rfl := Option.some.inj moved
      have valid : (run.target + (character.toNat - run.first)).isValidChar := by
        rcases capitalRuns_valid run member with below | above
        · exact Or.inl (by omega)
        · exact Or.inr ⟨by omega, by omega⟩
      exact Or.inr ⟨run, member, lower, upper, step, toNat_ofNat_of_valid valid⟩
    · cases moved
  · exact Or.inl rfl

/-! ## Characters that lower case keeps -/

/-- Lower case leaves the character as it is, wherever it stands. -/
structure IsSettled (character : Char) : Prop where
  undotted : character.toNat ≠ 0x130
  small : character.toNat ≠ 0x3A3
  kept : lowerCharacter character = character

/-- The form of a letter is no letter that has another form. -/
theorem LetterRun.Forms.isSettled {run : LetterRun} {character form : Char}
    (forms : run.Forms character form) : IsSettled form := by
  have offset : form.toNat = run.target + (character.toNat - run.first) := forms.form
  have within : character.toNat - run.first ≤ run.last - run.first := by
    have upper := forms.upper
    omega
  have even : run.step = 2 → (character.toNat - run.first) % 2 = 0 :=
    fun step => step ▸ forms.step
  have plain := capitalRuns_plain run forms.member
  refine ⟨?_, ?_, ?_⟩
  · have apart := plain 0x130 (by simp)
    omega
  · have apart := plain 0x3A3 (by simp)
    omega
  · have unmoved : ∀ other ∈ capitalRuns, other.moved? form.toNat = none := by
      intro other member
      have apart := List.all_eq_true.mp
        (List.all_eq_true.mp capitalRuns_apart run forms.member) other member
      simp only [isApart, Bool.or_eq_true, Bool.and_eq_true, Nat.blt_eq, beq_iff_eq] at apart
      have lower := forms.lower
      have upper := forms.upper
      refine if_neg fun moved => ?_
      simp only [Bool.and_eq_true, decide_eq_true_eq, beq_iff_eq] at moved
      obtain ⟨⟨least, most⟩, step⟩ := moved
      rcases apart with (before | behind) | ⟨⟨double, single⟩, odd⟩
      · omega
      · omega
      · rw [double] at step
        omega
    rw [lowerCharacter, List.findSome?_eq_none_iff.mpr unmoved]

theorem isSettled_of_mem_lowerOnto {before characters : List Char} {character : Char}
    (member : character ∈ lowerOnto before characters) : IsSettled character := by
  induction characters generalizing before with
  | nil =>
      cases member
  | cons first rest ih =>
      rw [lowerOnto, List.mem_append] at member
      rcases member with here | later
      · split at here
        · simp only [List.mem_cons, List.not_mem_nil, or_false] at here
          rcases here with rfl | rfl <;> exact ⟨by decide, by decide, by decide +kernel⟩
        · rename_i undotted
          split at here
          · rw [List.mem_singleton.mp here, lowerSigma]
            split <;> exact ⟨by decide, by decide, by decide +kernel⟩
          · rename_i small
            rw [List.mem_singleton.mp here]
            rcases lowerCharacter_cases first with kept | ⟨run, forms⟩
            · rw [kept]
              exact ⟨by simpa using undotted, by simpa using small, kept⟩
            · exact forms.isSettled
      · exact ih later

theorem lowerOnto_of_settled {characters : List Char}
    (settled : ∀ character ∈ characters, IsSettled character) (before : List Char) :
    lowerOnto before characters = characters := by
  induction characters generalizing before with
  | nil =>
      rfl
  | cons first rest ih =>
      rcases List.forall_mem_cons.mp settled with ⟨here, later⟩
      rw [lowerOnto, ih later]
      simp [here.undotted, here.small, here.kept]

/-- What is in lower case is not changed by putting it into lower case. -/
theorem lowerOnto_lowerOnto (before others characters : List Char) :
    lowerOnto others (lowerOnto before characters) = lowerOnto before characters :=
  lowerOnto_of_settled (fun _ => isSettled_of_mem_lowerOnto) others

/-! ## Caseless characters -/

/-- The character is neither a letter with a form nor the form of a letter. -/
def isCaseless (character : Char) : Bool :=
  !([0x69, 0x130, 0x307, 0x3A3, 0x3C2, 0x3C3].contains character.toNat) &&
    capitalRuns.all fun run =>
      (character.toNat < run.first || run.last < character.toNat) &&
        (character.toNat < run.target ||
          run.target + (run.last - run.first) < character.toNat)

section Caseless

variable {character : Char} (caseless : isCaseless character = true)

include caseless

/-- A caseless character is no letter of a run and no form. -/
theorem LetterRun.Forms.ne_of_caseless {run : LetterRun} {letter form : Char}
    (forms : run.Forms letter form) : letter ≠ character ∧ form ≠ character := by
  have apart := List.all_eq_true.mp (Bool.and_eq_true_iff.mp caseless).2 run forms.member
  simp only [Bool.and_eq_true, Bool.or_eq_true, decide_eq_true_eq] at apart
  have lower := forms.lower
  have upper := forms.upper
  have offset := forms.form
  constructor
  · rintro rfl
    omega
  · rintro rfl
    omega

/-- Neither letters with rules of their own nor what they become are caseless. -/
theorem ne_of_caseless {other : Char}
    (excluded : other.toNat ∈ [0x69, 0x130, 0x307, 0x3A3, 0x3C2, 0x3C3]) : other ≠ character := by
  rintro rfl
  have outside := (Bool.and_eq_true_iff.mp caseless).1
  simp [excluded] at outside

theorem lowerCharacter_eq_iff (letter : Char) :
    lowerCharacter letter = character ↔ letter = character := by
  rcases lowerCharacter_cases letter with kept | ⟨run, forms⟩
  · rw [kept]
  · rcases forms.ne_of_caseless caseless with ⟨noLetter, noForm⟩
    exact iff_of_false noForm noLetter

/-- Lower case keeps a caseless character as often as it stands in a text. -/
theorem count_lowerOnto (before characters : List Char) :
    (lowerOnto before characters).count character = characters.count character := by
  induction characters generalizing before with
  | nil =>
      rfl
  | cons first rest ih =>
      rw [lowerOnto, List.count_append, ih, ← List.singleton_append (l := rest), List.count_append]
      congr 1
      split
      · rename_i dotted
        have code : first.toNat = 0x130 := by simpa using dotted
        have absent : first ≠ character := ne_of_caseless caseless (by simp [code])
        have letter : 'i' ≠ character := ne_of_caseless caseless (by decide)
        have dot : Char.ofNat 0x307 ≠ character := ne_of_caseless caseless (by decide)
        simp [absent, letter, dot]
      · split
        · rename_i sigma
          have code : first.toNat = 0x3A3 := by simpa using sigma
          have absent : first ≠ character := ne_of_caseless caseless (by simp [code])
          have small : lowerSigma before rest ≠ character := by
            unfold lowerSigma
            split <;> exact ne_of_caseless caseless (by decide)
          simp [absent, small]
        · simp only [List.count_singleton, beq_iff_eq, lowerCharacter_eq_iff caseless]

theorem mem_lowerOnto_iff (before characters : List Char) :
    character ∈ lowerOnto before characters ↔ character ∈ characters := by
  rw [← List.count_pos_iff, count_lowerOnto caseless, List.count_pos_iff]

end Caseless

end DocumentGate.Text
