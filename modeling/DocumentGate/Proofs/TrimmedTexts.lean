import DocumentGate.Text.Blank
import Mathlib.Data.List.DropRight

/-!
# Trimmed texts

What trimming leaves of a text: where the text holds something that is not blank at either of its
ends, trimming takes from what stands around it only.
-/

namespace DocumentGate.Text

theorem dropWhile_append_of_shown {shown : List Char}
    (first : ∀ character ∈ shown.head?, isBlank character = false) (before : List Char) :
    (before ++ shown).dropWhile isBlank = before.dropWhile isBlank ++ shown := by
  rw [List.dropWhile_append]
  split
  · rename_i nothing
    rw [List.isEmpty_iff.mp nothing, List.nil_append]
    cases shown with
    | nil =>
        rfl
    | cons start rest =>
        exact List.dropWhile_cons_of_neg (by simpa using first start rfl)
  · rfl

/-- Trimming what stands around a text that begins and ends with characters that are not blank. -/
theorem stripChars_append {kept : List Char} (visible : kept ≠ [])
    (first : ∀ character ∈ kept.head?, isBlank character = false)
    (last : ∀ character ∈ kept.getLast?, isBlank character = false) (before after : List Char) :
    stripChars (before ++ kept ++ after) =
      before.dropWhile isBlank ++ kept ++ after.rdropWhile isBlank := by
  have starts : ∀ character ∈ (kept ++ after).head?, isBlank character = false := by
    rcases List.exists_cons_of_ne_nil visible with ⟨start, rest, rfl⟩
    exact first
  have ends : ∀ character ∈ (before.dropWhile isBlank ++ kept).reverse.head?,
      isBlank character = false := by
    rw [List.head?_reverse, List.getLast?_append_of_ne_nil _ visible]
    exact last
  rw [stripChars, List.append_assoc before, dropWhile_append_of_shown starts, ← List.append_assoc,
    List.reverse_append, dropWhile_append_of_shown ends, List.reverse_append, List.reverse_reverse]
  rfl

/-- Blanks around such a text are what trimming drops. -/
theorem stripChars_between {kept left right : List Char} (visible : kept ≠ [])
    (first : ∀ character ∈ kept.head?, isBlank character = false)
    (last : ∀ character ∈ kept.getLast?, isBlank character = false)
    (leading : ∀ character ∈ left, isBlank character = true)
    (trailing : ∀ character ∈ right, isBlank character = true) :
    stripChars (left ++ kept ++ right) = kept := by
  rw [stripChars_append visible first last, List.dropWhile_eq_nil_iff.mpr leading,
    List.rdropWhile_eq_nil_iff.mpr trailing, List.nil_append, List.append_nil]

/-- A text is what trimming leaves of it between blanks. -/
theorem exists_stripChars (characters : List Char) :
    ∃ left right, characters = left ++ stripChars characters ++ right ∧
      (∀ character ∈ left, isBlank character = true) ∧
      ∀ character ∈ right, isBlank character = true := by
  refine ⟨characters.takeWhile isBlank,
    ((characters.dropWhile isBlank).reverse.takeWhile isBlank).reverse, ?_,
    fun _ => List.mem_takeWhile_imp, fun _ member =>
      List.mem_takeWhile_imp (List.mem_reverse.mp member)⟩
  rw [stripChars, List.append_assoc, ← List.reverse_append, List.takeWhile_append_dropWhile,
    List.reverse_reverse, List.takeWhile_append_dropWhile]

/-- What trimming leaves begins with a character that is not blank, if anything is left. -/
theorem head?_stripChars (characters : List Char) :
    ∀ character ∈ (stripChars characters).head?, isBlank character = false := by
  intro character starts
  have prior : stripChars characters <+: characters.dropWhile isBlank :=
    List.rdropWhile_prefix isBlank _
  rcases List.head?_eq_some_iff.mp starts with ⟨rest, left⟩
  rcases prior with ⟨more, whole⟩
  have unblank := List.head?_dropWhile_not isBlank characters
  rw [← whole, left] at unblank
  exact unblank

/-- Nothing is left only of a text that is blank throughout. -/
theorem stripChars_ne_nil {characters : List Char} (shown : characters.all isBlank = false) :
    stripChars characters ≠ [] := by
  intro nothing
  rcases exists_stripChars characters with ⟨left, right, whole, leading, trailing⟩
  rw [nothing, List.append_nil] at whole
  rw [List.all_eq_false] at shown
  rcases shown with ⟨character, member, visible⟩
  rw [whole] at member
  rcases List.mem_append.mp member with ahead | behind
  · exact visible (leading character ahead)
  · exact visible (trailing character behind)

end DocumentGate.Text
