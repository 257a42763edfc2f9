/-
Styled text for a terminal.

A styled text is a list of spans.  It is written with the escape sequences of its styles, or
plainly; plain text also loses the sequences that a user has put into it.
-/
import ResultPages.Terminal.Escape

namespace ResultPages

/-- What a span of text is. -/
inductive Style where
  | normal
  | error
  | invalid
  | literal
  | placeholder
  | header
  | usage
deriving DecidableEq, Repr

/-- The numbers of the sequences that switch a style on. -/
def Style.codes : Style → List Nat
  | normal => []
  | error => [1, 31]
  | invalid => [33]
  | literal => [1, 34]
  | placeholder => [32]
  | header => [1, 33]
  | usage => [1, 32]

/-- A piece of text in one style. -/
structure Span where
  /-- What the piece is. -/
  style : Style
  /-- The piece. -/
  text : String
deriving DecidableEq, Repr

/-- A text in several styles. -/
abbrev Styled : Type := List Span

namespace Styled

/-- One sequence. -/
def sequence (code : Nat) : String := "\x1b[" ++ Nat.repr code ++ "m"

/-- A span with its sequences. -/
def paintSpan (s : Span) : String :=
  match s.style.codes with
  | [] => s.text
  | codes => String.join (codes.map sequence) ++ s.text ++ sequence 0

/-- The text with sequences. -/
def painted (t : Styled) : String := String.join (t.map paintSpan)

/-- The text without sequences. -/
def plain (t : Styled) : String := String.ofList (Terminal.strip t.painted.toList)

/-- The text with or without sequences. -/
def render (paint : Bool) (t : Styled) : String := if paint then t.painted else t.plain

end Styled

/-- Text without a style. -/
def normal (s : String) : Span := ⟨.normal, s⟩

/-- Text to be typed as it stands. -/
def literal (s : String) : Span := ⟨.literal, s⟩

/-- Text that stands for something else. -/
def placeholder (s : String) : Span := ⟨.placeholder, s⟩

end ResultPages
