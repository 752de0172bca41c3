/-!
# Sets of characters given by ranges of code points
-/

namespace SqlDialect.Text

/-- The code point of the character lies in one of the ranges, ends included. -/
def inRanges (ranges : List (Nat × Nat)) (c : Char) : Bool :=
  ranges.any fun r => r.1 ≤ c.toNat && c.toNat ≤ r.2

theorem inRanges_of_mem {ranges : List (Nat × Nat)} {c : Char} {r : Nat × Nat} (hr : r ∈ ranges)
    (hl : r.1 ≤ c.toNat) (hu : c.toNat ≤ r.2) : inRanges ranges c = true :=
  List.any_eq_true.2 ⟨r, hr, by simp [hl, hu]⟩

end SqlDialect.Text
