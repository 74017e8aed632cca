import DocumentGate.Text.Units
import DocumentGate.Text.Utf8

/-!
# Encodings of texts

Characters are encoded in single bytes, in pairs or in fours, the last two in either
order.  A mark in front of the bytes names the encoding.  Without one it shows from the
zeros among the first bytes, for the first character of a text that is meant here takes
no more than one byte.
-/

namespace DocumentGate.Text

/-- How characters are encoded in bytes. -/
inductive Encoding where
  | utf8
  | utf16 (littleEndian : Bool)
  | utf32 (littleEndian : Bool)
deriving DecidableEq, Repr

namespace Encoding

/-- The encoding that zeros among the first bytes show. -/
def ofZeros : List UInt8 → Encoding
  | first :: second :: third :: fourth :: _ =>
    if first = 0 then if second = 0 then .utf32 false else .utf16 false
    else if second = 0 then if third = 0 && fourth = 0 then .utf32 true else .utf16 true
    else .utf8
  | [first, second] =>
    if first = 0 then .utf16 false else if second = 0 then .utf16 true else .utf8
  | _ => .utf8

/-- The encoding of bytes, and the bytes after the mark. -/
def detect : List UInt8 → Encoding × List UInt8
  | 0x00 :: 0x00 :: 0xFE :: 0xFF :: rest => (.utf32 false, rest)
  | 0xFF :: 0xFE :: 0x00 :: 0x00 :: rest => (.utf32 true, rest)
  | 0xFE :: 0xFF :: rest => (.utf16 false, rest)
  | 0xFF :: 0xFE :: rest => (.utf16 true, rest)
  | 0xEF :: 0xBB :: 0xBF :: rest => (.utf8, rest)
  | bytes => (ofZeros bytes, bytes)

/-- Two numbers below a base as the digits of one. -/
def joined (littleEndian : Bool) (base first second : Nat) : Nat :=
  if littleEndian then second * base + first else first * base + second

/-- The sixteen-bit units of bytes, if there is an even number of them. -/
def units? (littleEndian : Bool) : List UInt8 → Option (List Nat)
  | [] => some []
  | [_] => none
  | first :: second :: rest =>
    (units? littleEndian rest).map (joined littleEndian 0x100 first.toNat second.toNat :: ·)

/-- The codes that pairs of units are the halves of, if all of them have a place. -/
def codes? (littleEndian : Bool) : List Nat → Option (List Nat)
  | [] => some []
  | [_] => none
  | first :: second :: rest =>
    let code := joined littleEndian 0x10000 first second
    if code < 0x110000 then (codes? littleEndian rest).map (code :: ·) else none

/-- The characters that bytes encode. -/
def decode? (encoding : Encoding) (bytes : List UInt8) : Option (List Char) :=
  match encoding with
  | .utf8 => (Utf8.decode bytes).toOption
  | .utf16 littleEndian => (units? littleEndian bytes).map joinSurrogates
  | .utf32 littleEndian =>
    ((units? littleEndian bytes).bind (codes? littleEndian)).map (·.map characterOf)

end Encoding

/-- The characters that bytes of any encoding stand for. -/
def charactersOf? (bytes : List UInt8) : Option (List Char) :=
  let (encoding, rest) := Encoding.detect bytes
  encoding.decode? rest

example : charactersOf? [0, 0x7B, 0, 0x7D] = some ['\x7b', '\x7d'] := by decide
example : charactersOf? [0xEF, 0xBB, 0xBF, 0x7B] = some ['\x7b'] := by decide
example : charactersOf? [0x31, 0, 0, 0] = some ['1'] := by decide

end DocumentGate.Text
