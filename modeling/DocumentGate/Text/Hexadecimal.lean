/-!
# Hexadecimal digits

Escapes name a character by a fixed number of hexadecimal digits.  They are
written in lower case and read in either case.
-/

namespace DocumentGate.Text

/-- The last `width` hexadecimal digits of a number, most significant first. -/
def hexDigits : (width number : Nat) → List Char
  | 0, _ => []
  | width + 1, number => hexDigits width (number / 16) ++ [(number % 16).digitChar]

@[simp]
theorem hexDigits_length (width number : Nat) : (hexDigits width number).length = width := by
  induction width generalizing number with
  | zero => rfl
  | succ width ih => simp [hexDigits, ih]

/-- The value of one hexadecimal digit, in either case. -/
def hexDigitValue? (character : Char) : Option Nat :=
  let code := character.toNat
  if 0x30 ≤ code && code ≤ 0x39 then some (code - 0x30)
  else if 0x41 ≤ code && code ≤ 0x46 then some (code - 0x37)
  else if 0x61 ≤ code && code ≤ 0x66 then some (code - 0x57)
  else none

/-- The value of a run of hexadecimal digits, or nothing if one of them is not a digit. -/
def hexValue? (digits : List Char) : Option Nat :=
  digits.foldl
    (fun value digit => do return (← value) * 16 + (← hexDigitValue? digit))
    (some 0)

end DocumentGate.Text
