/-!
# Classes of characters

A class of characters that follows no simple rule is a list of closed ranges of code
points, in order.
-/

namespace DocumentGate.Text

/-- Code points as closed ranges in order. -/
abbrev Ranges := List (Nat × Nat)

/-- The character lies in one of the ranges. -/
def Ranges.cover (ranges : Ranges) (character : Char) : Bool :=
  ranges.any fun (first, last) => first ≤ character.toNat && character.toNat ≤ last

end DocumentGate.Text
