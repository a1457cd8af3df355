/-!
# Sets of characters

A set of characters is given by ranges of their numbers, both ends included.
-/

namespace RevisionControl.Text

/-- A set of characters. -/
abbrev Ranges := List (Nat × Nat)

/-- Whether a set holds a character. -/
def Ranges.holds (ranges : Ranges) (c : Char) : Bool :=
  ranges.any fun (first, last) => first ≤ c.toNat && c.toNat ≤ last

end RevisionControl.Text
