/-
Sets of code points, given by ranges.

The tables of character properties are lists of ranges; a character is looked for range by
range.
-/

namespace ResultPages

namespace CodePoint

/-- The code points from `first` to `last`, both included. -/
structure Range where
  /-- The first code point. -/
  first : Nat
  /-- The last code point. -/
  last : Nat
deriving DecidableEq, Repr

/-- Membership of a code point. -/
def Range.contains (r : Range) (n : Nat) : Bool := r.first ≤ n && n ≤ r.last

/-- Whether a character lies in one of some ranges. -/
def isIn (rs : List Range) (c : Char) : Bool := rs.any (·.contains c.toNat)

theorem isIn_eq_true_iff {rs : List Range} {c : Char} :
    isIn rs c = true ↔ ∃ r ∈ rs, r.first ≤ c.toNat ∧ c.toNat ≤ r.last := by
  simp [isIn, Range.contains]

end CodePoint

end ResultPages
