/-!
# Blank characters

Commands, connection strings and settings are trimmed of blank characters, and
the arguments of a command may carry them between any two tokens.  Blank are the
characters that separate words or lines in any script: the line and tab controls,
the four separator controls, the space and the spaces of the Unicode blocks.
-/

namespace DocumentGate.Text

/-- A blank character separates words or lines. -/
def isBlank (character : Char) : Bool :=
  let code := character.toNat
  (0x09 ≤ code && code ≤ 0x0D) || (0x1C ≤ code && code ≤ 0x20) ||
    code == 0x85 || code == 0xA0 || code == 0x1680 ||
    (0x2000 ≤ code && code ≤ 0x200A) || code == 0x2028 || code == 0x2029 ||
    code == 0x202F || code == 0x205F || code == 0x3000

/-- Every character that core counts as white space is blank. -/
theorem isBlank_of_isWhitespace {character : Char} (white : character.isWhitespace = true) :
    isBlank character = true := by
  have cases : character = ' ' ∨ character = '\t' ∨ character = '\r' ∨ character = '\n' := by
    simpa [Char.isWhitespace, or_assoc] using white
  rcases cases with rfl | rfl | rfl | rfl <;> decide

/-- Drop the blank characters at both ends. -/
def stripChars (characters : List Char) : List Char :=
  ((characters.dropWhile isBlank).reverse.dropWhile isBlank).reverse

/-- Drop the blank characters at both ends of a string. -/
def strip (text : String) : String :=
  String.ofList (stripChars text.toList)

/-- A text is blank when nothing is left of it after trimming. -/
def isBlankText (text : String) : Bool :=
  text.toList.all isBlank

end DocumentGate.Text
