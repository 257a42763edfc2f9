/-
Normalization form C of a text.

The text is taken apart into base characters and marks, marks on one base are put in the
order of their classes, and then each base takes up the marks that it can.  A mark is kept
from its base by a mark of the same or a higher class that stands between them.  Hangul
syllables are taken apart and put together by arithmetic, all others by a table.
-/
import ResultPages.CodePoint.Composition

namespace ResultPages

namespace NormalForm

open CodePoint

/-! ### Taking apart -/

/-- The two or three letters of a Hangul syllable. -/
def hangulLetters? (c : Char) : Option (List Char) :=
  if 0xAC00 ≤ c.toNat ∧ c.toNat ≤ 0xD7A3 then
    let i := c.toNat - 0xAC00
    let head := [Char.ofNat (0x1100 + i / 588), Char.ofNat (0x1161 + i % 588 / 28)]
    some (if i % 28 = 0 then head else head ++ [Char.ofNat (0x11A7 + i % 28)])
  else none

/-- A character in its parts, of which the first may have parts again. -/
def split (c : Char) : List Char :=
  match hangulLetters? c with
  | some cs => cs
  | none =>
    match composites.find? (·.whole = c.toNat) with
    | some p => [Char.ofNat p.base, Char.ofNat p.mark]
    | none => [c]

/-- A text in its smallest parts.  Three rounds are enough: no character of the table is a
base with more than three marks. -/
def decompose (cs : List Char) : List Char :=
  ((cs.flatMap split).flatMap split).flatMap split

/-! ### Order of marks -/

/-- Puts a character in front of an ordered text, behind the marks of lower classes. -/
def place (c : Char) : List Char → List Char
  | [] => [c]
  | d :: ds =>
    if 0 < combiningClass d ∧ combiningClass d < combiningClass c then d :: place c ds
    else c :: d :: ds

/-- The text with the marks on each base in the order of their classes. -/
def order (cs : List Char) : List Char := cs.foldr place []

/-! ### Putting together -/

/-- The character that is the same as two others. -/
def pair? (base mark : Char) : Option Char :=
  let b := base.toNat
  let m := mark.toNat
  if 0x1100 ≤ b ∧ b < 0x1113 ∧ 0x1161 ≤ m ∧ m < 0x1176 then
    some (Char.ofNat (0xAC00 + ((b - 0x1100) * 21 + (m - 0x1161)) * 28))
  else if 0xAC00 ≤ b ∧ b ≤ 0xD7A3 ∧ (b - 0xAC00) % 28 = 0 ∧ 0x11A7 < m ∧ m < 0x11C3 then
    some (Char.ofNat (b + (m - 0x11A7)))
  else
    (composites.find? fun p => p.base = b ∧ p.mark = m).map fun p => Char.ofNat p.whole

/-- Goes on from a base and the marks, last one first, that it did not take up. -/
def composeFrom (base : Char) (marks : List Char) : List Char → List Char
  | [] => base :: marks.reverse
  | c :: cs =>
    let reaches := match marks with
      | [] => true
      | m :: _ => combiningClass m < combiningClass c
    match if reaches then pair? base c else none with
    | some whole => composeFrom whole marks cs
    | none =>
      if combiningClass c = 0 then base :: marks.reverse ++ composeFrom c [] cs
      else composeFrom base (c :: marks) cs

/-- The text with every base united with the marks that it takes up. -/
def compose : List Char → List Char
  | [] => []
  | c :: cs => if combiningClass c = 0 then composeFrom c [] cs else c :: compose cs

end NormalForm

/-- A text in normalization form C. -/
def normalForm (cs : List Char) : List Char :=
  NormalForm.compose (NormalForm.order (NormalForm.decompose cs))

end ResultPages
