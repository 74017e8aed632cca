import DocumentGate.Text.Hexadecimal
import DocumentGate.Text.Printable

/-!
# Quoted values in messages

Messages that mention a value show it between quotation marks.  The mark is the
apostrophe, unless the value holds an apostrophe and no double quotation mark.
The mark in use and the backslash are written with a backslash, a line feed, a
carriage return and a tab by their letters, and every other character that is not
printable by its code in two, four or eight hexadecimal digits.
-/

namespace DocumentGate.Text

/-- The mark that a quoted value stands between. -/
def quotationMark (characters : List Char) : Char :=
  if characters.contains '\'' && !characters.contains '"' then '"' else '\''

/-- One character of a quoted value. -/
def quotedCharacter (mark character : Char) : List Char :=
  if character = mark || character = '\\' then ['\\', character]
  else if character = '\n' then ['\\', 'n']
  else if character = '\r' then ['\\', 'r']
  else if character = '\t' then ['\\', 't']
  else if isPrintable character then [character]
  else if character.toNat < 0x100 then '\\' :: 'x' :: hexDigits 2 character.toNat
  else if character.toNat < 0x10000 then '\\' :: 'u' :: hexDigits 4 character.toNat
  else '\\' :: 'U' :: hexDigits 8 character.toNat

/-- The text of a value between quotation marks. -/
def quoted (text : String) : String :=
  let mark := quotationMark text.toList
  String.ofList (mark :: text.toList.flatMap (quotedCharacter mark) ++ [mark])

example : quoted "it's" = "\"it's\"" := by decide +kernel
example : quoted "b'\"" = "'b\\'\"'" := by decide +kernel
example : quoted "a\u0000b" = "'a\\x00b'" := by decide +kernel

end DocumentGate.Text
