import DocumentGate.Document.Identity
import DocumentGate.Proofs.StoredTexts
import Mathlib

/-!
# Identities as they are shown

Documents to be inserted are compared by what messages show of their identities.  A string
stands between quotation marks, and each of its characters can be read back from what is written
for it.  A whole number stands there by its digits, and no digit is a quotation mark.  So no two
identities are shown the same.
-/

namespace DocumentGate

namespace Text

/-! ## Quoted characters -/

/-- The character whose code has these hexadecimal digits. -/
def coded (digits : List Char) : Char :=
  Char.ofNat ((hexValue? digits).getD 0)

theorem coded_hexDigits {width : Nat} {character : Char} (fits : character.toNat < 16 ^ width) :
    coded (hexDigits width character.toNat) = character := by
  rw [coded, hexValue?_hexDigits, Nat.mod_eq_of_lt fits]
  exact Char.ofNat_toNat character

/-- The character that is written by a letter behind a backslash, and what stands behind it. -/
def unescape (letter : Char) (rest : List Char) : Char × List Char :=
  match letter with
  | 'n' => ('\n', rest)
  | 'r' => ('\r', rest)
  | 't' => ('\t', rest)
  | 'x' => (coded (rest.take 2), rest.drop 2)
  | 'u' => (coded (rest.take 4), rest.drop 4)
  | 'U' => (coded (rest.take 8), rest.drop 8)
  | _ => (letter, rest)

/-- The first character that is quoted, and what stands behind it. -/
def unquote? : List Char → Option (Char × List Char)
  | [] => none
  | '\\' :: letter :: rest => some (unescape letter rest)
  | character :: rest => some (character, rest)

section Marks

variable {mark : Char} (isMark : mark = '\'' ∨ mark = '"')

include isMark

theorem unescape_mark (rest : List Char) : unescape mark rest = (mark, rest) := by
  rcases isMark with rfl | rfl <;> rfl

/-- A character is read back from what is written for it. -/
theorem unquote?_quotedCharacter (character : Char) (rest : List Char) :
    unquote? (quotedCharacter mark character ++ rest) = some (character, rest) := by
  -- Escapes by code differ in their letter and in how many digits stand behind it.
  have byCode : ∀ {letter : Char} {width : Nat}, character.toNat < 16 ^ width →
      (∀ digits, unescape letter digits = (coded (digits.take width), digits.drop width)) →
      unquote? ('\\' :: letter :: hexDigits width character.toNat ++ rest) =
        some (character, rest) := by
    intro letter width fits read
    have digits := hexDigits_length width character.toNat
    change some (unescape letter (hexDigits width character.toNat ++ rest)) = _
    rw [read, List.take_left' digits, List.drop_left' digits, coded_hexDigits fits]
  unfold quotedCharacter
  split
  · rename_i escaped
    change some (unescape character rest) = some (character, rest)
    rcases Bool.or_eq_true_iff.mp escaped with same | same
    · rw [of_decide_eq_true same, unescape_mark isMark]
    · rw [of_decide_eq_true same]
      rfl
  rename_i plain
  split
  · subst_vars
    rfl
  split
  · subst_vars
    rfl
  split
  · subst_vars
    rfl
  split
  · have other : character ≠ '\\' := by
      simpa using fun same => plain (by simp [same])
    rw [List.singleton_append, unquote?]
    exact fun letter _ same _ => other same
  split
  · rename_i small
    exact byCode small fun _ => rfl
  split
  · rename_i small
    exact byCode small fun _ => rfl
  · have last : character.toNat < 16 ^ 8 := by
      have valid : character.toNat < 0xD800 ∨
          0xDFFF < character.toNat ∧ character.toNat < 0x110000 := character.valid
      omega
    exact byCode last fun _ => rfl

theorem quotedCharacters_injective :
    Function.Injective fun characters : List Char => characters.flatMap (quotedCharacter mark) := by
  have read : ∀ character rest, unquote? ((character :: rest).flatMap (quotedCharacter mark)) =
      some (character, rest.flatMap (quotedCharacter mark)) :=
    fun character rest => unquote?_quotedCharacter isMark character _
  intro left right same
  induction left generalizing right with
  | nil =>
      cases right with
      | nil =>
          rfl
      | cons character rest =>
          have other := (congrArg unquote? same).trans (read character rest)
          cases other
  | cons character rest ih =>
      have first := (read character rest).symm.trans (congrArg unquote? same)
      cases right with
      | nil =>
          cases first
      | cons other others =>
          obtain ⟨rfl, behind⟩ := Prod.mk.inj (Option.some.inj (first.trans (read other others)))
          rw [ih behind]

end Marks

/-! ## Quoted texts -/

theorem quotationMark_cases (characters : List Char) :
    quotationMark characters = '\'' ∨ quotationMark characters = '"' := by
  unfold quotationMark
  split
  · exact Or.inr rfl
  · exact Or.inl rfl

theorem toList_quoted (text : String) :
    (quoted text).toList = quotationMark text.toList ::
      text.toList.flatMap (quotedCharacter (quotationMark text.toList)) ++
        [quotationMark text.toList] :=
  String.toList_ofList

/-- Different texts are quoted differently. -/
theorem quoted_injective : Function.Injective quoted := by
  intro left right same
  have characters := congrArg String.toList same
  rw [toList_quoted, toList_quoted] at characters
  obtain ⟨marks, further⟩ := List.cons.inj characters
  rw [marks] at further
  have quotedAlike := List.append_cancel_right further
  exact String.toList_inj.mp
    (quotedCharacters_injective (quotationMark_cases right.toList) quotedAlike)

end Text

/-! ## Identities -/

namespace Identity

/-- The text of a whole number is of digits, behind a minus sign where it is negative. -/
theorem digits_of_mem_repr {value : Int} {character : Char}
    (member : character ∈ value.repr.toList) : character.isDigit = true ∨ character = '-' := by
  have digit : ∀ number : Nat, character ∈ number.repr.toList → character.isDigit = true := by
    intro number among
    rw [Nat.repr_eq_ofList_toDigits, String.toList_ofList] at among
    exact Nat.isDigit_of_mem_toDigits (by decide) (by decide) among
  rw [Int.repr_eq_if] at member
  split at member
  · exact Or.inl (digit _ member)
  · rw [String.toList_append, List.mem_append] at member
    rcases member with sign | digits
    · exact Or.inr (List.mem_singleton.mp sign)
    · exact Or.inl (digit _ digits)

/-- A string is never shown as a whole number is. -/
theorem quoted_ne_repr (text : String) (value : Int) : Text.quoted text ≠ value.repr := by
  intro same
  have member : Text.quotationMark text.toList ∈ value.repr.toList := by
    rw [← same, Text.toList_quoted]
    exact List.mem_cons_self
  have written := digits_of_mem_repr member
  rcases Text.quotationMark_cases text.toList with mark | mark <;>
    rw [mark] at written <;>
    revert written <;>
    decide

theorem shown_number (value : Int) : shown (number value) = value.repr :=
  Int.toString_eq_repr

/-- Identities that are shown the same are the same. -/
theorem shown_injective : Function.Injective shown := by
  intro left right same
  cases left with
  | text left =>
      cases right with
      | text right =>
          exact congrArg text (Text.quoted_injective same)
      | number right =>
          exact absurd (same.trans (shown_number right)) (quoted_ne_repr left right)
  | number left =>
      cases right with
      | text right =>
          exact absurd (same.symm.trans (shown_number left)) (quoted_ne_repr right left)
      | number right =>
          rw [shown_number, shown_number] at same
          exact congrArg number (Int.repr_injective same)

end Identity
end DocumentGate
