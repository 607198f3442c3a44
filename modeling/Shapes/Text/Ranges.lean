/-!
Sets of characters given as ranges of code points.
-/

namespace Shapes.Text

/-- A set of characters: inclusive ranges of code points. -/
abbrev Ranges := List (Nat × Nat)

/-- Whether some range holds the code point of `c`. -/
def Ranges.holds (ranges : Ranges) (c : Char) : Bool :=
  ranges.any fun range => range.1 ≤ c.toNat && c.toNat ≤ range.2

theorem Ranges.holds_iff {ranges : Ranges} {c : Char} :
    ranges.holds c = true ↔ ∃ range ∈ ranges, range.1 ≤ c.toNat ∧ c.toNat ≤ range.2 := by
  simp [Ranges.holds]

end Shapes.Text
