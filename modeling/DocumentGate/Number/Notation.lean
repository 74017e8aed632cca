import DocumentGate.Number.Basic
import DocumentGate.Number.Shortest

/-!
# The written form of numbers

Whole numbers are written in plain decimal.  A double is written with its shortest
digits: positionally while its first digit stands near the point, with one zero after the
point where nothing else follows, and with a power of ten otherwise.  What counts as
near, how many digits a power has at least, and whether a double without digits is
written by its name, is for a notation to choose.
-/

namespace DocumentGate

namespace Number

/-- What the written form of a double may choose. -/
structure Notation where
  /-- How many zeros may stand between the point and the first digit. -/
  leadingZeros : Nat
  /-- How many digits may stand before the point. -/
  wholeDigits : Nat
  /-- How many digits a power of ten has at least. -/
  powerDigits : Nat
  /-- A double without digits is written by its name, and as null otherwise. -/
  named : Bool

/-- Digits without the zeros at their end. -/
def withoutTrailingZeros (digits : List Char) : List Char :=
  (digits.reverse.dropWhile (· == '0')).reverse

/-- Digits as a number below one times a power of ten, written positionally. -/
def positional (digits : List Char) (point : Int) : List Char :=
  if point ≤ 0 then
    ['0', '.'] ++ List.replicate (-point).toNat '0' ++ digits
  else if digits.length ≤ point.toNat then
    digits ++ List.replicate (point.toNat - digits.length) '0' ++ ['.', '0']
  else
    digits.take point.toNat ++ ['.'] ++ digits.drop point.toNat

/-- Digits with a point after the first one and a power of ten. -/
def scientific (style : Notation) (digits : List Char) (point : Int) : List Char :=
  let power := point - 1
  let exponentDigits := Nat.toDigits 10 power.natAbs
  let fraction := match digits.drop 1 with
    | [] => []
    | rest => '.' :: rest
  digits.take 1 ++ fraction ++ ['e', if power < 0 then '-' else '+'] ++
    List.replicate (style.powerDigits - exponentDigits.length) '0' ++ exponentDigits

/-- A decimal in the form that its size calls for. -/
def writtenDecimal (style : Notation) (decimal : Decimal) : List Char :=
  let digits := Nat.toDigits 10 decimal.coefficient
  let point := (digits.length : Int) + decimal.exponent
  let digits := withoutTrailingZeros digits
  if -(style.leadingZeros : Int) ≤ point ∧ point ≤ style.wholeDigits then positional digits point
  else scientific style digits point

/-- What is written for a double without digits. -/
def withoutDigits (style : Notation) (name : List Char) : List Char :=
  if style.named then name else ['n', 'u', 'l', 'l']

/-- The written form of a double. -/
def writtenDouble (style : Notation) : Double → List Char
  | .finite negative significand exponent _ =>
    (if negative then ['-'] else []) ++
      if significand = 0 then ['0', '.', '0']
      else writtenDecimal style (Decimal.shortest significand exponent)
  | .infinite negative =>
    withoutDigits style ((if negative then ['-'] else []) ++ "Infinity".toList)
  | .nan _ => withoutDigits style "NaN".toList

/-- The written form of a whole number. -/
def writtenInteger (value : Int) : List Char :=
  (if value < 0 then ['-'] else []) ++ Nat.toDigits 10 value.natAbs

/-- The written form of a number. -/
def written (style : Notation) : Number → List Char
  | .integer value => writtenInteger value
  | .double value => writtenDouble style value

/-- Whole numbers of more digits are neither read nor written. -/
def digitLimit : Nat := 4300

/-- A whole number that has more digits than are written. -/
def isOversized : Number → Bool
  | .integer value => Nat.pow 10 digitLimit ≤ value.natAbs
  | .double _ => false

end Number
end DocumentGate
