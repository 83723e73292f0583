/-!
# Sets of characters given by ranges of code points

Properties of characters are kept as ascending tables of ranges. **Membership**: a character is in the set exactly
when its code point lies in one of the ranges (`CodeRanges.contains_iff`). All tables of the library are those of
Unicode 16.
-/

namespace AckDesk.Text

/-- A set of characters, as inclusive ranges of code points. -/
structure CodeRanges where
  bounds : List (Nat × Nat)

namespace CodeRanges

/-- The code point of the character lies in one of the ranges. -/
def contains (r : CodeRanges) (c : Char) : Bool :=
  r.bounds.any fun b => b.1 ≤ c.toNat && c.toNat ≤ b.2

/-- A character is in the ranges exactly when its code point lies in one of them. -/
theorem contains_iff {r : CodeRanges} {c : Char} :
    r.contains c = true ↔ ∃ b ∈ r.bounds, b.1 ≤ c.toNat ∧ c.toNat ≤ b.2 := by
  simp [contains]

end CodeRanges

end AckDesk.Text
