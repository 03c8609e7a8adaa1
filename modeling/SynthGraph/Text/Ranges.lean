/-!
# Classes of characters

A class of characters is given by a table of ranges of code points, both ends included.
-/

namespace SynthGraph

/-- Ranges of code points, from the first to the last character of each. -/
abbrev CharRanges := List (Nat × Nat)

/-- The character lies in one of the ranges. -/
def CharRanges.contains (table : CharRanges) (c : Char) : Bool :=
  table.any fun (first, last) => first ≤ c.toNat && c.toNat ≤ last

end SynthGraph
