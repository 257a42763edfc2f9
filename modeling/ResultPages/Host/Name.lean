/-
Domain names: from what a host spells to the ASCII name that it stands for.

A name of ASCII characters without encoded labels is put into lower case, and that is all
(`plain?`).  Any other name is mapped character by character, normalised and cut into labels.
A label that begins with `xn--` is decoded and has to be in the form that mapping and
normalising leave alone.  Every label must start with something else than a combining mark,
may hold joiners only where they have an effect, and must be laid out in one direction if
any label of the name is written from right to left.  The labels with characters outside
ASCII are written in Punycode behind `xn--`.

In both cases the ASCII characters that separate the parts of an address, white space and
control characters are refused; that is decided after mapping, so no spelling of them gets
through.
-/
import ResultPages.CodePoint.BidiClass
import ResultPages.CodePoint.Joining
import ResultPages.CodePoint.Mark
import ResultPages.CodePoint.NameMapping
import ResultPages.Host.NormalForm
import ResultPages.Host.Punycode
import ResultPages.Host.Subdomain

namespace ResultPages

namespace Name

open CodePoint

/-- A character of ASCII. -/
def isAscii (c : Char) : Bool := c.toNat < 128

/-- The characters of ASCII that no name may hold: controls, space, and delimiters. -/
def isForbidden (c : Char) : Bool :=
  c.toNat ≤ 0x20 || c.toNat == 0x7F || "%#/:<>?@[\\]^|".toList.contains c

/-- How an encoded label begins. -/
def encodedMark : List Char := "xn--".toList

/-! ### Names of plain ASCII -/

/-- Whether a name in lower case can be taken as it is. -/
def isPlain (cs : List Char) : Bool :=
  cs.all isAscii && (labels cs).all (!encodedMark.isPrefixOf ·)

/-- A plain name, unless it holds a forbidden character. -/
def plain? (cs : List Char) : Option (List Char) :=
  if cs.any isForbidden then none else some cs

/-! ### Labels -/

/-- Whether mapping leaves a character of a label alone. -/
def isKept (c : Char) : Bool := nameImage? c == some [c] && !isForbidden c && c != '.'

/-- The characters of a label, decoded if the label is encoded. -/
def decodeLabel? (label : List Char) : Option (List Char) :=
  if encodedMark.isPrefixOf label then
    let rest := label.drop 4
    if rest = [] ∨ rest.getLast? = some '-' ∨ !rest.all isAscii ∨ 2000 < rest.length then none
    else
      (Punycode.decode? rest).bind fun cs =>
        if cs.all isKept ∧ normalForm cs = cs then some cs else none
  else some label

/-- Whether the nearest character that joining does not look through satisfies `p`. -/
def reaches (p : Char → Bool) : List Char → Bool
  | [] => false
  | c :: cs => p c || (isTransparent c && reaches p cs)

/-- Whether each joiner has an effect, given the characters before, last one first: it
follows a virama, or it is a non-joiner between two letters that would join. -/
def joinersHold (before : List Char) : List Char → Bool
  | [] => true
  | c :: cs =>
    (if c = '\u200C' ∨ c = '\u200D' then
      (before.head?.any isVirama) ||
        (c == '\u200C' && reaches joinsLeft before && reaches joinsRight cs)
    else true) && joinersHold (c :: before) cs

/-- Whether a label may stand in a name. -/
def isSound (label : List Char) : Bool :=
  !label.head?.any isMark && joinersHold [] label &&
    (label.all isAscii || label.length ≤ 1000)

/-! ### Writing direction -/

/-- Whether a character makes its name one with right-to-left labels. -/
def turnsDirection (c : Char) : Bool :=
  match BidiClass.ofChar c with
  | .rightToLeft | .arabicLetter | .arabicNumber => true
  | _ => false

/-- The classes that may stand anywhere in a label. -/
def isNeutral : BidiClass → Bool
  | .europeanNumber | .europeanSeparator | .commonSeparator | .europeanTerminator
  | .otherNeutral | .boundaryNeutral | .nonspacingMark => true
  | _ => false

/-- The classes of a label after the first character, without trailing nonspacing marks. -/
def bodyClasses (label : List Char) : List BidiClass :=
  ((label.drop 1).map BidiClass.ofChar).reverse.dropWhile (· == .nonspacingMark)

/-- Whether a label is laid out in the direction of its first character: it holds nothing of
the other direction, ends in a letter or a number, and a right-to-left label has digits of
one kind only. -/
def hasOneDirection (label : List Char) : Bool :=
  let body := bodyClasses label
  match label.head?.map BidiClass.ofChar with
  | none => true
  | some .leftToRight =>
    body.all (fun k => k == .leftToRight || isNeutral k) &&
      body.head?.all fun k => k == .leftToRight || k == .europeanNumber
  | some .rightToLeft | some .arabicLetter =>
    let isStrong := fun k : BidiClass => k == .rightToLeft || k == .arabicLetter
    body.all (fun k => isStrong k || k == .arabicNumber || isNeutral k) &&
      (body.head?.all fun k => isStrong k || k == .arabicNumber || k == .europeanNumber) &&
      !(body.contains .arabicNumber && body.contains .europeanNumber)
  | some _ => false

/-- Whether the labels of a name can be told apart in any layout. -/
def directionsHold (ls : List (List Char)) : Bool :=
  !(ls.any (·.any turnsDirection)) || ls.all hasOneDirection

/-! ### Names of any characters -/

/-- The ASCII form of a label. -/
def encodeLabel (label : List Char) : List Char :=
  if label.all isAscii then label else encodedMark ++ Punycode.encode label

/-- The name with every character mapped, in normal form. -/
def mapped? (cs : List Char) : Option (List Char) :=
  (cs.mapM nameImage?).map fun images => normalForm images.flatten

/-- The labels of a mapped name, if they may stand in a name together. -/
def soundLabels? (cs : List Char) : Option (List (List Char)) :=
  if cs.any isForbidden then none
  else
    ((labels cs).mapM decodeLabel?).bind fun ls =>
      if ls.all isSound && directionsHold ls then some ls else none

/-- The ASCII form of a name of any characters. -/
def international? (cs : List Char) : Option (List Char) :=
  ((mapped? cs).bind soundLabels?).map fun ls => join '.' (ls.map encodeLabel)

/-- The ASCII form of a name. -/
def toAscii? (cs : List Char) : Option (List Char) :=
  let lower := cs.map Char.toLower
  if isPlain lower then plain? lower else international? cs

end Name

end ResultPages
