import DocumentGate.Proofs.StrictTexts
import Mathlib.Algebra.Group.Nat.Defs

/-!
# Texts of stored values

A value is stored as its text, with a blank after each comma and each colon.  Where its keys
are distinct and its numbers are whole and within the digit limit, the text is read as the value
that was written: every character of a string comes back from its escape, or from the two halves
of a pair, and a whole number from its digits.
-/

namespace DocumentGate

namespace Json

/-! ## Values that can be stored -/

mutual
/-- Every number in the value is a whole one. -/
def isWhole : Json → Bool
  | .number (.integer _) => true
  | .number (.double _) => false
  | .array elements => areWhole elements
  | .object members => membersAreWhole members
  | _ => true
termination_by structural value => value

/-- `isWhole` of each element. -/
def areWhole : List Json → Bool
  | [] => true
  | element :: rest => isWhole element && areWhole rest
termination_by structural elements => elements

/-- `isWhole` of the value of each member. -/
def membersAreWhole : List (String × Json) → Bool
  | [] => true
  | (_, value) :: rest => isWhole value && membersAreWhole rest
termination_by structural members => members
end

/-- All numbers are whole and within the digit limit, and the keys of every object are distinct. -/
structure IsStorable (value : Json) : Prop where
  whole : value.isWhole = true
  fits : value.hasOversizedNumber = false
  distinct : value.HasDistinctKeys

namespace IsStorable

variable {key : String} {value : Json}

theorem element {rest : List Json} (storable : IsStorable (.array (value :: rest))) :
    IsStorable value ∧ IsStorable (.array rest) := by
  rcases Bool.and_eq_true_iff.mp storable.whole with ⟨whole, restWhole⟩
  rcases Bool.or_eq_false_iff.mp storable.fits with ⟨fits, restFits⟩
  exact ⟨⟨whole, fits, storable.distinct.1⟩, ⟨restWhole, restFits, storable.distinct.2⟩⟩

theorem member {rest : List (String × Json)}
    (storable : IsStorable (.object ((key, value) :: rest))) :
    IsStorable value ∧ IsStorable (.object rest) := by
  rcases Bool.and_eq_true_iff.mp storable.whole with ⟨whole, restWhole⟩
  rcases Bool.or_eq_false_iff.mp storable.fits with ⟨fits, restFits⟩
  rcases storable.distinct with ⟨keys, distinct, restDistinct⟩
  exact ⟨⟨whole, fits, distinct⟩, ⟨restWhole, restFits, (List.nodup_cons.mp keys).2, restDistinct⟩⟩

end IsStorable
end Json

namespace Text

/-! ## Units and their digits -/

theorem hexDigitValue?_digitChar :
    ∀ digit < 16, hexDigitValue? digit.digitChar = some digit := by
  decide

/-- The last digits of a number are those of what is left of it. -/
theorem hexValue?_hexDigits (width number : Nat) :
    hexValue? (hexDigits width number) = some (number % 16 ^ width) := by
  induction width generalizing number with
  | zero =>
      rw [Nat.pow_zero, Nat.mod_one]
      rfl
  | succ width ih =>
      have last := hexDigitValue?_digitChar (number % 16) (Nat.mod_lt number (by decide))
      rw [hexDigits, hexValue?, List.foldl_append, ← hexValue?, ih]
      have split : number / 16 % 16 ^ width * 16 + number % 16 = number % 16 ^ (width + 1) := by
        rw [Nat.pow_succ', Nat.mod_mul, Nat.mul_comm, Nat.add_comm]
      simpa [last] using split

/-- The units of a character are units. -/
theorem unitsOf_lt (character : Char) : ∀ unit ∈ unitsOf character.toNat, unit < 16 ^ 4 := by
  have valid : character.toNat < 0xD800 ∨ 0xDFFF < character.toNat ∧ character.toNat < 0x110000 :=
    character.valid
  unfold unitsOf
  split <;> simp <;> omega

/-- The units of characters join to the characters. -/
theorem joinSurrogates_flatMap (characters : List Char) :
    joinSurrogates (characters.flatMap fun character => unitsOf character.toNat) = characters := by
  induction characters with
  | nil =>
      rfl
  | cons character rest ih =>
      rw [List.flatMap_cons, joinSurrogates_unitsOf, ih]

end Text

namespace Argument

/-! ## Strings -/

/-- Escaped units stand for themselves. -/
theorem Spells.units {units : List Nat} (small : ∀ unit ∈ units, unit < 16 ^ 4)
    {rest : List Char} {codes : List Nat} (further : Spells '"' rest codes) :
    Spells '"' (units.flatMap (fun unit => '\\' :: 'u' :: Text.hexDigits 4 unit) ++ rest)
      (units ++ codes) := by
  induction units with
  | nil =>
      exact further
  | cons unit units ih =>
      have read := Text.hexValue?_hexDigits 4 unit
      rw [Nat.mod_eq_of_lt (small unit List.mem_cons_self)] at read
      exact .unicode read (ih fun other member => small other (List.mem_cons_of_mem unit member))

/-- What is written for a character stands for its units. -/
theorem Spells.written (character : Char) {rest : List Char} {codes : List Nat}
    (further : Spells '"' rest codes) :
    Spells '"' (Json.writeCharacter .stored character ++ rest)
      (Text.unitsOf character.toNat ++ codes) := by
  have short : ∀ {letter}, Json.escaped? letter = some character → character.toNat < 0x10000 →
      Spells '"' ('\\' :: letter :: rest) (Text.unitsOf character.toNat ++ codes) := by
    intro letter escaped first
    rw [Text.unitsOf, if_pos first]
    exact .escape escaped further
  unfold Json.writeCharacter
  split
  · subst_vars
    exact short rfl (by decide)
  split
  · subst_vars
    exact short rfl (by decide)
  split
  · subst_vars
    exact short rfl (by decide)
  split
  · subst_vars
    exact short rfl (by decide)
  split
  · subst_vars
    exact short rfl (by decide)
  split
  · subst_vars
    exact short rfl (by decide)
  split
  · subst_vars
    exact short rfl (by decide)
  split
  · exact .units (Text.unitsOf_lt character) further
  split
  · exact .units (Text.unitsOf_lt character) further
  · rename_i unmarked unescaped _ _ _ _ _ printable plain
    have first : character.toNat < 0x10000 := by
      simp only [Json.Style.stored, Bool.true_and, decide_eq_true_eq] at plain
      omega
    rw [Text.unitsOf, if_pos first]
    exact .plain unmarked unescaped (Nat.not_lt.mp printable) further

theorem spells_text (characters : List Char) :
    Spells '"' (characters.flatMap (Json.writeCharacter .stored))
      (characters.flatMap fun character => Text.unitsOf character.toNat) := by
  induction characters with
  | nil =>
      exact .nil
  | cons character rest ih =>
      exact ih.written character

theorem readsString_written (text : String) :
    ReadsString text (text.toList.flatMap (Json.writeCharacter .stored)) := by
  intro rest
  rw [(spells_text text.toList).readsString, Text.joinSurrogates_flatMap, String.ofList_toList]

/-! ## Whole numbers -/

/-- Only zero is written with a zero at its start. -/
theorem head?_toDigits (number : Nat) (nonzero : number ≠ 0) :
    (Nat.toDigits 10 number).head? ≠ some '0' := by
  induction number using Nat.strongRecOn with
  | ind number ih =>
      rcases Nat.lt_or_ge number 10 with small | large
      · have first : ∀ digit < 10, digit ≠ 0 → digit.digitChar ≠ '0' := by
          decide
        rw [Nat.toDigits_of_lt_base small, List.head?_cons]
        exact fun same => first number small nonzero (Option.some.inj same)
      · have positive : number / 10 ≠ 0 := by
          omega
        rw [Nat.toDigits_of_base_le (by decide) large, List.head?_append_of_ne_nil _
          (Nat.toDigits_ne_nil)]
        exact ih (number / 10) (by omega) positive

theorem wholeText_toDigits (number : Nat) : WholeText (Nat.toDigits 10 number) := by
  by_cases zero : number = 0
  · subst zero
    exact .zero
  · cases written : Nat.toDigits 10 number with
    | nil =>
        exact absurd written Nat.toDigits_ne_nil
    | cons first rest =>
        refine .digits ?_ ?_
        · rintro rfl
          exact head?_toDigits number zero (by rw [written, List.head?_cons])
        · intro digit member
          rw [← written] at member
          exact Nat.isDigit_of_mem_toDigits (by decide : 0 < 10) (by decide) member

/-- The digits of a whole number and its sign make the number. -/
theorem numberOf_toDigits (value : Int) :
    numberOf (decide (value < 0)) (Nat.toDigits 10 value.natAbs) [] none = .integer value := by
  have magnitude : Nat.ofDigitChars 10 (Nat.toDigits 10 value.natAbs) 0 = value.natAbs :=
    Nat.ofDigitChars_ten_toDigits
  change Number.integer (Double.signed (decide (value < 0))
    (Nat.ofDigitChars 10 (Nat.toDigits 10 value.natAbs) 0)) = _
  rw [magnitude, Double.signed]
  congr 1
  split
  · rename_i below
    rw [decide_eq_true_eq] at below
    omega
  · rename_i above
    rw [decide_eq_true_eq] at above
    omega

/-- A whole number is written as a number. -/
theorem numberText_writtenInteger (value : Int) :
    NumberText (Number.writtenInteger value) (.integer value) := by
  have text : NumberText ((if decide (value < 0) then ['-'] else []) ++
      (Nat.toDigits 10 value.natAbs ++ ([] ++ []))) _ :=
    .parts (wholeText_toDigits value.natAbs) .none .none
  rw [numberOf_toDigits, List.append_nil, List.append_nil] at text
  simpa only [Number.writtenInteger, decide_eq_true_eq] using text

/-! ## Values -/

theorem starts_write (value : Json) (storable : value.IsStorable) :
    Starts (Json.write .stored value) := by
  cases value with
  | null =>
      exact ⟨_, _, rfl, by decide, by decide⟩
  | boolean value =>
      cases value <;> exact ⟨_, _, rfl, by decide, by decide⟩
  | number number =>
      cases number with
      | integer value =>
          exact starts_number (numberText_writtenInteger value)
      | double value =>
          cases storable.whole
  | string text =>
      exact ⟨_, _, rfl, by decide, by decide⟩
  | array elements =>
      exact ⟨_, _, rfl, by decide, by decide⟩
  | object members =>
      exact ⟨_, _, rfl, by decide, by decide⟩

theorem starts_writeElements {first : Json} {rest : List Json}
    (storable : (Json.array (first :: rest)).IsStorable) :
    Starts (Json.writeElements .stored (first :: rest)) :=
  (starts_write first storable.element.1).append _

theorem starts_writeMembers (first : String × Json) (rest : List (String × Json)) :
    Starts (Json.writeMembers .stored (first :: rest)) :=
  ⟨_, _, rfl, by decide, by decide⟩

theorem blank_gap : ∀ character ∈ [' '], Json.isSpace character = true := by
  intro character member
  rw [List.mem_singleton.mp member]
  rfl

/-- A member is read where it was written alone. -/
theorem Reads.writtenMember {key : String} {value : Json}
    (literal : Reads (.literal value) (Json.write .stored value)) (storable : value.IsStorable) :
    Reads (.members [(key, value)]) (Json.writeMembers .stored [(key, value)]) := by
  have written : Json.writeMembers .stored [(key, value)] =
      '"' :: (key.toList.flatMap (Json.writeCharacter .stored) ++ '"' :: ':' ::
        ([' '] ++ Json.write .stored value)) := by
    simp [Json.writeMembers, Json.writeString, Json.Style.stored]
  rw [written]
  exact Reads.member blank_gap (readsString_written key) literal (starts_write value storable)

/-- A member is read where it was written before others. -/
theorem Reads.writtenMembers {key : String} {value : Json} {second : String × Json}
    {rest : List (String × Json)} (literal : Reads (.literal value) (Json.write .stored value))
    (further : Reads (.members (second :: rest)) (Json.writeMembers .stored (second :: rest)))
    (storable : value.IsStorable) :
    Reads (.members ((key, value) :: second :: rest))
      (Json.writeMembers .stored ((key, value) :: second :: rest)) := by
  have written : Json.writeMembers .stored ((key, value) :: second :: rest) =
      '"' :: (key.toList.flatMap (Json.writeCharacter .stored) ++ '"' :: ':' ::
        ([' '] ++ (Json.write .stored value ++ ',' ::
          ([' '] ++ Json.writeMembers .stored (second :: rest))))) := by
    rw [Json.writeMembers]
    simp [Json.writeString, Json.Style.stored]
  rw [written]
  exact Reads.members blank_gap (readsString_written key) literal further
    (starts_write value storable) (starts_writeMembers second rest)

mutual
/-- A value is read where it was written. -/
theorem reads_write : ∀ {value : Json}, value.IsStorable →
    Reads (.literal value) (Json.write .stored value)
  | .null, _ => Strict.nullName.reads
  | .boolean true, _ => Strict.trueName.reads
  | .boolean false, _ => Strict.falseName.reads
  | .number (.integer value), storable =>
      reads_number (numberText_writtenInteger value) storable.fits
  | .number (.double value), storable => by
      cases storable.whole
  | .string text, _ => reads_string (readsString_written text)
  | .array [], _ => Strict.emptyArray.reads
  | .array (first :: rest), storable =>
      (reads_writeElements (List.cons_ne_nil first rest) storable).array
        (starts_writeElements storable)
  | .object [], _ => Strict.emptyObject.reads
  | .object (first :: rest), storable => by
      have read : Reads (.literal (.object (Dictionary.ofPairs (first :: rest))))
          ('\x7b' :: (Json.writeMembers .stored (first :: rest) ++ ['\x7d'])) :=
        (reads_writeMembers (List.cons_ne_nil first rest) storable).object
          (starts_writeMembers first rest)
      rw [Dictionary.ofPairs_of_nodup storable.distinct.1] at read
      exact read
termination_by structural value => value

theorem reads_writeElements : ∀ {elements : List Json}, elements ≠ [] →
    (Json.array elements).IsStorable →
    Reads (.elements elements) (Json.writeElements .stored elements)
  | [], goes, _ => absurd rfl goes
  | [first], _, storable => by
      rw [Json.writeElements, List.append_nil]
      exact (reads_write storable.element.1).element
  | first :: second :: rest, _, storable =>
      Reads.elements blank_gap (reads_write storable.element.1)
        (reads_writeElements (List.cons_ne_nil second rest) storable.element.2)
        (starts_writeElements storable.element.2)
termination_by structural elements => elements

theorem reads_writeMembers : ∀ {members : List (String × Json)}, members ≠ [] →
    (Json.object members).IsStorable →
    Reads (.members members) (Json.writeMembers .stored members)
  | [], goes, _ => absurd rfl goes
  | [(_, _)], _, storable => (reads_write storable.member.1).writtenMember storable.member.1
  | (_, _) :: second :: rest, _, storable =>
      (reads_write storable.member.1).writtenMembers
        (reads_writeMembers (List.cons_ne_nil second rest) storable.member.2) storable.member.1
termination_by structural members => members
end

end Argument

/-- A value is read from the text that it was stored as. -/
theorem Json.read_text {value : Json} (storable : value.IsStorable) :
    Json.read value.text = .ok value := by
  have read := Argument.Reads.readChars (Argument.reads_write storable)
    (Argument.starts_write value storable)
  rw [Json.read, Json.text, String.toList_ofList, read]
  rfl

end DocumentGate
