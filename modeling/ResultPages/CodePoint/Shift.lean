/-
Stretches of characters that go to stretches of other ones, such as the capitals of a script
to its small letters.
-/
import ResultPages.CodePoint.Ranges

namespace ResultPages

namespace CodePoint

/-- A stretch of characters and where it goes: for every `k` that `step` divides, the
character `k` places behind the first one of the range goes `k` places behind `target`. -/
structure Shift where
  /-- The characters that may be replaced. -/
  range : Range
  /-- How far apart they lie. -/
  step : Nat
  /-- What the first one goes to. -/
  target : Nat
deriving DecidableEq, Repr

namespace Shift

/-- Whether a character is one of those that are replaced. -/
def appliesTo (s : Shift) (c : Char) : Bool :=
  s.range.contains c.toNat && (c.toNat - s.range.first) % s.step == 0

theorem appliesTo_iff {s : Shift} {c : Char} : s.appliesTo c = true ↔
    (s.range.first ≤ c.toNat ∧ c.toNat ≤ s.range.last) ∧
      (c.toNat - s.range.first) % s.step = 0 := by
  simp [appliesTo, Range.contains]

/-- What a character of the stretch is replaced by. -/
def image (s : Shift) (c : Char) : Char := Char.ofNat (s.target + (c.toNat - s.range.first))

end Shift

end CodePoint

end ResultPages
