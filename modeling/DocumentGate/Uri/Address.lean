import DocumentGate.Text.Hexadecimal
import DocumentGate.Text.Segments

/-!
# Network addresses

The spelling of addresses of the two lengths that may stand for a host.
-/

namespace DocumentGate.Uri

/-- A part of a short address: a number up to 255 without leading zeros. -/
def isOctet (part : List Char) : Bool :=
  !part.isEmpty && part.all Char.isDigit && part.length ≤ 3 &&
    (part == ['0'] || part.head? != some '0') && Nat.ofDigitChars 10 part 0 ≤ 255

/-- A short address: four parts between dots. -/
def isShortAddress (text : List Char) : Bool :=
  let parts := Text.segmentsOf '.' text
  parts.length == 4 && parts.all isOctet

/-- A part of a long address: one to four hexadecimal digits. -/
def isHextet (part : List Char) : Bool :=
  !part.isEmpty && part.length ≤ 4 && part.all fun digit => (Text.hexDigitValue? digit).isSome

/--
The parts of a long address, a short one at the end taken as two.  Nothing results
when what stands there is no short address.
-/
def longParts? (text : List Char) : Option (List (List Char)) :=
  let parts := Text.segmentsOf ':' text
  match parts.getLast? with
  | some last =>
    if last.contains '.' then
      if isShortAddress last then some (parts.dropLast ++ [['0'], ['0']]) else none
    else some parts
  | none => none

/--
The parts make up a long address: eight parts, or fewer with one gap, an empty part
that stands for those that are missing.  At an end the gap takes two empty parts.
-/
def arePartsOfLong (parts : List (List Char)) : Bool :=
  let inner := (parts.drop 1).dropLast
  match inner.findIdx? List.isEmpty with
  | none => parts.length == 8 && parts.all isHextet
  | some gap =>
    let upper := parts.take (gap + 1)
    let lower := parts.drop (gap + 2)
    let named (half : List (List Char)) : Bool := half == [[]] || half.all isHextet
    let count (half : List (List Char)) : Nat := if half == [[]] then 0 else half.length
    named upper && named lower && count upper + count lower < 8

/-- A long address, without a zone. -/
def isLongAddressWithoutZone (text : List Char) : Bool :=
  match longParts? text with
  | some parts => 3 ≤ (Text.segmentsOf ':' text).length && arePartsOfLong parts
  | none => false

/-- A long address, with or without a zone after a percent sign. -/
def isLongAddress (text : List Char) : Bool :=
  match Text.segmentsOf '%' text with
  | [address] => isLongAddressWithoutZone address
  | [address, zone] => !zone.isEmpty && isLongAddressWithoutZone address
  | _ => false

example : isLongAddress "::1".toList = true := by decide
example : isLongAddress "1::2::3".toList = false := by decide
example : isLongAddress "fe80::1%eth0".toList = true := by decide
example : isLongAddress "::ffff:1.2.3.4".toList = true := by decide
example : isShortAddress "1.2.3.04".toList = false := by decide

end DocumentGate.Uri
