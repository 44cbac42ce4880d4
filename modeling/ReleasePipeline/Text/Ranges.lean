/-!
# ReleasePipeline.Text.Ranges

Sets of characters as tables: ranges of code points, both ends included, in ascending order.
Surrogates are no characters and may fall into a range.
-/

namespace ReleasePipeline.Text

/-- Whether a character is in one of some ranges. -/
def isWithin (ranges : List (Nat × Nat)) (c : Char) : Bool :=
  ranges.any fun (low, high) => low ≤ c.toNat && c.toNat ≤ high

/-- Only the ranges themselves count: a character is in one of them if and only if one holds it. -/
theorem isWithin_iff {ranges : List (Nat × Nat)} {c : Char} :
    isWithin ranges c = true ↔ ∃ range ∈ ranges, range.1 ≤ c.toNat ∧ c.toNat ≤ range.2 := by
  simp [isWithin]

end ReleasePipeline.Text
