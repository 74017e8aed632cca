import DocumentGate.Number.Notation
import DocumentGate.Text.Blank
import DocumentGate.Text.Cut
import DocumentGate.Text.Digit
import DocumentGate.Text.Segments

/-!
# Statuses of statements

A server reports what a statement did in a status such as `DELETE 3`.  The number behind
the last space says how many rows were affected; it may be spelled with the digits of any
script, with single underscores between them and with a sign.  A status that ends in no
number counts as none.
-/

namespace DocumentGate.Postgres

/-- A space or one of the controls that part words. -/
def isSpacing (character : Char) : Bool :=
  character = ' ' || ('\t' ≤ character && character ≤ '\r')

/-- The ASCII character that another blank or digit stands for; others are no part of a number. -/
def plainCharacter (character : Char) : Char :=
  if character.toNat < 0x7F then character
  else if Text.isBlank character then ' '
  else (Text.decimalValue? character).elim '?' Nat.digitChar

/-- The number that a text is, if it is one. -/
def numberOf? (text : List Char) : Option Int :=
  let plain := text.map plainCharacter
  let spelled := ((plain.dropWhile isSpacing).reverse.dropWhile isSpacing).reverse
  let (negative, digits) := match spelled with
    | '-' :: rest => (true, rest)
    | '+' :: rest => (false, rest)
    | rest => (false, rest)
  let groups := Text.segmentsOf '_' digits
  let isNumber := groups.all fun group => !group.isEmpty && group.all Char.isDigit
  if isNumber && groups.flatten.length ≤ Number.digitLimit then
    some (Double.signed negative (Nat.ofDigitChars 10 groups.flatten 0))
  else none

/-- How many rows a statement with this status affected. -/
def affected (status : String) : Int :=
  (numberOf? (Text.cutLast ' ' status.toList).2).getD 0

example : affected "DELETE 3" = 3 ∧ affected "INSERT 0 1_0" = 10 ∧ affected "BEGIN" = 0 := by
  decide +kernel

end DocumentGate.Postgres
