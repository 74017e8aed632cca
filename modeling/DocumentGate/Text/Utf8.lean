import DocumentGate.Text.Hexadecimal

/-!
# Decoding bytes

Files and messages are sequences of bytes that encode characters, one to four bytes
each.  Overlong forms, halves of surrogate pairs and codes beyond the last plane are
refused.  A fault covers the bytes that could still have started a character: a byte
that starts none, the bytes before one that does not continue them, or the bytes at the
end that a character was cut off after.
-/

namespace DocumentGate.Text.Utf8

/-- Why bytes do not encode a character. -/
inductive Cause where
  | invalidStart
  | invalidContinuation
  | endOfData
deriving DecidableEq, Repr

/-- The cause in words. -/
def Cause.message : Cause → String
  | .invalidStart => "invalid start byte"
  | .invalidContinuation => "invalid continuation byte"
  | .endOfData => "unexpected end of data"

/-- Bytes at a position that do not encode a character, the first of them by its value. -/
structure Fault where
  cause : Cause
  position : Nat
  length : Nat
  first : UInt8
deriving DecidableEq, Repr

/-- The fault in words. -/
def Fault.message (fault : Fault) : String :=
  let bytes :=
    if fault.length = 1 then
      "byte 0x" ++ String.ofList (hexDigits 2 fault.first.toNat) ++ " in position " ++
        toString fault.position
    else
      "bytes in position " ++ toString fault.position ++ "-" ++
        toString (fault.position + fault.length - 1)
  "'utf-8' codec can't decode " ++ bytes ++ ": " ++ fault.cause.message

/-- A byte that continues a character. -/
def continues (byte : UInt8) : Bool :=
  0x80 ≤ byte && byte ≤ 0xBF

/-- How many bytes a first byte announces after it, and the range of the first of them. -/
def announced? (first : UInt8) : Option (Nat × UInt8 × UInt8) :=
  if 0xC2 ≤ first && first ≤ 0xDF then some (1, 0x80, 0xBF)
  else if first = 0xE0 then some (2, 0xA0, 0xBF)
  else if first = 0xED then some (2, 0x80, 0x9F)
  else if 0xE1 ≤ first && first ≤ 0xEF then some (2, 0x80, 0xBF)
  else if first = 0xF0 then some (3, 0x90, 0xBF)
  else if first = 0xF4 then some (3, 0x80, 0x8F)
  else if 0xF1 ≤ first && first ≤ 0xF3 then some (3, 0x80, 0xBF)
  else none

/-- The bytes at the start of the rest that continue a character of the given form. -/
def continuation (count : Nat) (low high : UInt8) (rest : List UInt8) : List UInt8 :=
  match count, rest with
  | count + 1, byte :: following =>
    if low ≤ byte && byte ≤ high then byte :: (following.take count).takeWhile continues else []
  | _, _ => []

/-- The code of a character from its first byte and those that continue it. -/
def codeOf (first : UInt8) (following : List UInt8) : Nat :=
  let lead := first.toNat % Nat.pow 2 (6 - following.length)
  following.foldl (fun code byte => code * 64 + byte.toNat % 64) lead

/-- The characters that bytes encode, counted from a position. -/
def decodeFrom (position : Nat) : (skip : Nat) → List UInt8 → Except Fault (List Char)
  | _, [] => .ok []
  | skip + 1, _ :: rest => decodeFrom (position + 1) skip rest
  | 0, first :: rest =>
    if first < 0x80 then do
      return Char.ofNat first.toNat :: (← decodeFrom (position + 1) 0 rest)
    else
      match announced? first with
      | none => .error ⟨.invalidStart, position, 1, first⟩
      | some (count, low, high) =>
        let following := continuation count low high rest
        if following.length = count then do
          return Char.ofNat (codeOf first following) :: (← decodeFrom (position + 1) count rest)
        else
          let cause := if following.length = rest.length then .endOfData else .invalidContinuation
          .error ⟨cause, position, following.length + 1, first⟩

/-- The characters that bytes encode. -/
def decode (bytes : List UInt8) : Except Fault (List Char) :=
  decodeFrom 0 0 bytes

example : (decode [0x70, 0xC3, 0xA9, 0xF0, 0x9F, 0x98, 0x80]).toOption = some ['p', 'é', '😀'] := by
  decide

end DocumentGate.Text.Utf8
