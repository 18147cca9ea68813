/-!
# Ranges of code points

Properties of characters are given as lists of closed ranges of code points. A character has the
property when one of the ranges holds its code point.
-/

namespace VulkanPrefill.Text

/-- The code points from `first` to `last`, both included. -/
structure CodeRange where
  first : Nat
  last : Nat
  deriving DecidableEq, Repr

def CodeRange.holds (r : CodeRange) (c : Char) : Bool :=
  r.first ≤ c.toNat && c.toNat ≤ r.last

def anyHolds (rs : List CodeRange) (c : Char) : Bool :=
  rs.any (·.holds c)

theorem anyHolds_iff {rs : List CodeRange} {c : Char} :
    anyHolds rs c = true ↔ ∃ r ∈ rs, r.first ≤ c.toNat ∧ c.toNat ≤ r.last := by
  simp [anyHolds, CodeRange.holds]

end VulkanPrefill.Text
