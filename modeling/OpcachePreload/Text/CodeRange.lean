/-!
# Ranges of code points

A class of characters beyond ASCII is data of a standard: an increasing list of ranges.
-/

namespace OpcachePreload.Text

/-- The code points from `first` to `last`, both included. -/
structure CodeRange where
  first : Nat
  last : Nat

/-- Whether a character lies in the range. -/
def CodeRange.covers (range : CodeRange) (c : Char) : Bool :=
  range.first ≤ c.toNat && c.toNat ≤ range.last

theorem CodeRange.covers_iff {range : CodeRange} {c : Char} :
    range.covers c = true ↔ range.first ≤ c.toNat ∧ c.toNat ≤ range.last := by
  simp [CodeRange.covers]

end OpcachePreload.Text
