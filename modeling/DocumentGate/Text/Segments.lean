/-!
# Segments of a text

A text falls into segments at each separator.  There is always one segment more than
there are separators, and segments may be empty.
-/

namespace DocumentGate.Text

/-- The segments of a list of characters between separators. -/
def segmentsOf (separator : Char) : List Char → List (List Char)
  | [] => [[]]
  | character :: rest =>
    if character = separator then [] :: segmentsOf separator rest
    else
      match segmentsOf separator rest with
      | [] => [[character]]
      | first :: others => (character :: first) :: others

/-- The segments of a text between separators. -/
def segments (separator : Char) (text : String) : List String :=
  (segmentsOf separator text.toList).map String.ofList

theorem segmentsOf_ne_nil (separator : Char) (characters : List Char) :
    segmentsOf separator characters ≠ [] := by
  cases characters with
  | nil => simp [segmentsOf]
  | cons first rest =>
    simp only [segmentsOf]
    split
    · simp
    · split <;> simp

theorem length_segmentsOf (separator : Char) (characters : List Char) :
    (segmentsOf separator characters).length = characters.count separator + 1 := by
  induction characters with
  | nil => simp [segmentsOf]
  | cons first rest ih =>
    simp only [segmentsOf, List.count_cons]
    by_cases same : first = separator
    · simp [same, ih]
    · simp only [same, if_false, beq_iff_eq, Nat.add_zero]
      split
      · exact absurd ‹_› (segmentsOf_ne_nil separator rest)
      · rename_i head tail split
        rw [← ih, split]
        simp

end DocumentGate.Text
