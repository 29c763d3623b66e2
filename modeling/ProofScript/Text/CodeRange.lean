/-!
# Tables of code points

A character class of the Unicode standard is given as a list of closed intervals of code points.
Membership is a search through the list; the classes themselves keep a short test for ASCII in
front of it.
-/
namespace ProofScript.Text

/-- The first and the last code point of an interval. -/
abbrev CodeRange := Nat × Nat

/-- Whether the code point of `c` lies in one of `ranges`. -/
def inRanges (ranges : List CodeRange) (c : Char) : Bool :=
  ranges.any fun (first, last) => first ≤ c.toNat && c.toNat ≤ last

/-- Whether the code point of `c` lies in one of `ranges` at an even distance from its first.

Scripts in which each capital is followed by its small letter are tabulated this way. -/
def inAlternatingRanges (ranges : List CodeRange) (c : Char) : Bool :=
  ranges.any fun (first, last) =>
    first ≤ c.toNat && c.toNat ≤ last && (c.toNat - first) % 2 == 0

end ProofScript.Text
