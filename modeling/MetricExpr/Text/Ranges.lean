/-!
# Tables of code points

A character class of the Unicode standard is a list of closed ranges of code points.
-/
namespace MetricExpr.Text

/-- Does one of the ranges hold the character's code point? -/
def inRanges (ranges : List (Nat × Nat)) (c : Char) : Bool :=
  ranges.any fun range => range.1 ≤ c.toNat && c.toNat ≤ range.2

theorem inRanges_iff {ranges : List (Nat × Nat)} {c : Char} :
    inRanges ranges c = true ↔ ∃ range ∈ ranges, range.1 ≤ c.toNat ∧ c.toNat ≤ range.2 := by
  simp [inRanges]

end MetricExpr.Text
