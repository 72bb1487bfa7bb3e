/-!
# Sets of code points

A set of characters is written as the ascending list of its closed ranges.
-/

namespace ClassRegistry.Text

/-- A set of code points, given by closed ranges. -/
structure CodePointSet where
  /-- Each pair holds the first and the last code point of a range. -/
  ranges : List (Nat × Nat)

namespace CodePointSet

/-- Whether the set holds the code point of `c`. -/
def contains (s : CodePointSet) (c : Char) : Bool :=
  s.ranges.any fun range => range.1 ≤ c.toNat && c.toNat ≤ range.2

/-- A character is in the set exactly when one of the ranges covers it. -/
theorem contains_iff {s : CodePointSet} {c : Char} :
    s.contains c = true ↔ ∃ range ∈ s.ranges, range.1 ≤ c.toNat ∧ c.toNat ≤ range.2 := by
  simp [contains, List.any_eq_true]

end CodePointSet

end ClassRegistry.Text
