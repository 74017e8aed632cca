/-!
# Sixteen-bit units

A character is one unit of sixteen bits, or a pair of surrogates, a high and a low one,
where it lies beyond the first plane.  Units join to the characters that they came from.
A surrogate without its other half has no character and is replaced.
-/

namespace DocumentGate.Text

/-- The sixteen-bit units of a code point: one, or a pair of surrogates. -/
def unitsOf (code : Nat) : List Nat :=
  if code < 0x10000 then [code]
  else [0xD800 + (code - 0x10000) / 0x400, 0xDC00 + (code - 0x10000) % 0x400]

/-- The code is the first half of a pair. -/
def isHighSurrogate (code : Nat) : Bool :=
  0xD800 ≤ code && code ≤ 0xDBFF

/-- The code is the second half of a pair. -/
def isLowSurrogate (code : Nat) : Bool :=
  0xDC00 ≤ code && code ≤ 0xDFFF

/-- The character of a code; half a pair alone has none and is replaced. -/
def characterOf (code : Nat) : Char :=
  if isHighSurrogate code || isLowSurrogate code then Char.ofNat 0xFFFD else Char.ofNat code

/-- The characters of codes: two halves in a row are one character. -/
def joinSurrogates : List Nat → List Char
  | [] => []
  | [code] => [characterOf code]
  | first :: second :: rest =>
    if isHighSurrogate first && isLowSurrogate second then
      Char.ofNat (0x10000 + (first - 0xD800) * 0x400 + (second - 0xDC00)) :: joinSurrogates rest
    else characterOf first :: joinSurrogates (second :: rest)

/-- No character is half a pair. -/
theorem not_isSurrogate (character : Char) :
    isHighSurrogate character.toNat = false ∧ isLowSurrogate character.toNat = false := by
  have valid : character.toNat < 0xD800 ∨ 0xDFFF < character.toNat ∧ character.toNat < 0x110000 :=
    character.valid
  simp [isHighSurrogate, isLowSurrogate]
  omega

/-- The code of a character leads back to it. -/
theorem characterOf_toNat (character : Char) : characterOf character.toNat = character := by
  simp [characterOf, not_isSurrogate, Char.ofNat_toNat]

/-- A code that is no first half stands for itself. -/
theorem joinSurrogates_cons {code : Nat} (single : isHighSurrogate code = false)
    (rest : List Nat) :
    joinSurrogates (code :: rest) = characterOf code :: joinSurrogates rest := by
  cases rest <;> simp [joinSurrogates, single]

/-- The units of a character join to the character. -/
theorem joinSurrogates_unitsOf (character : Char) (rest : List Nat) :
    joinSurrogates (unitsOf character.toNat ++ rest) = character :: joinSurrogates rest := by
  have valid : character.toNat < 0xD800 ∨ 0xDFFF < character.toNat ∧ character.toNat < 0x110000 :=
    character.valid
  unfold unitsOf
  split
  · rw [List.singleton_append, joinSurrogates_cons (not_isSurrogate character).1,
      characterOf_toNat]
  · rename_i large
    have high : isHighSurrogate (0xD800 + (character.toNat - 0x10000) / 0x400) = true := by
      simp [isHighSurrogate]
      omega
    have low : isLowSurrogate (0xDC00 + (character.toNat - 0x10000) % 0x400) = true := by
      simp [isLowSurrogate]
      omega
    have code :
        0x10000 + (0xD800 + (character.toNat - 0x10000) / 0x400 - 0xD800) * 0x400 +
          (0xDC00 + (character.toNat - 0x10000) % 0x400 - 0xDC00) = character.toNat := by
      omega
    simp only [List.cons_append, List.nil_append, joinSurrogates, high, low, Bool.and_self,
      if_true, code, Char.ofNat_toNat]

end DocumentGate.Text
