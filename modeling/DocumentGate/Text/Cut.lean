/-!
# Cutting a text in two

A text is cut at the first or at the last place where a character stands.
-/

namespace DocumentGate.Text

/-- The text before the first separator, and the text after it if there is one. -/
def cut (separator : Char) : List Char → List Char × Option (List Char)
  | [] => ([], none)
  | character :: rest =>
    if character = separator then ([], some rest)
    else
      let (before, after) := cut separator rest
      (character :: before, after)

/-- The text before the last separator if there is one, and the text after it. -/
def cutLast (separator : Char) : List Char → Option (List Char) × List Char
  | [] => (none, [])
  | character :: rest =>
    match cutLast separator rest with
    | (some before, after) => (some (character :: before), after)
    | (none, after) =>
      if character = separator then (some [], after) else (none, character :: after)

theorem cut_of_not_mem {separator : Char} {before : List Char} (absent : separator ∉ before)
    (after : List Char) : cut separator (before ++ separator :: after) = (before, some after) := by
  induction before with
  | nil => simp [cut]
  | cons first rest ih =>
    simp only [List.mem_cons, not_or] at absent
    simp [cut, Ne.symm absent.1, ih absent.2]

theorem cutLast_none_of_not_mem {separator : Char} {characters : List Char}
    (absent : separator ∉ characters) : cutLast separator characters = (none, characters) := by
  induction characters with
  | nil => rfl
  | cons first rest ih =>
    simp only [List.mem_cons, not_or] at absent
    simp [cutLast, ih absent.2, Ne.symm absent.1]

theorem cutLast_of_not_mem {separator : Char} {after : List Char} (absent : separator ∉ after)
    (before : List Char) :
    cutLast separator (before ++ separator :: after) = (some before, after) := by
  induction before with
  | nil => simp [cutLast, cutLast_none_of_not_mem absent]
  | cons first rest ih => simp [cutLast, ih]

end DocumentGate.Text
