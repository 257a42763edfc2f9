/-
Terminal escape sequences, and text without them.

A sequence begins with ESC.  What follows decides its kind: a few octets that end with the
first letter or the like, a control sequence behind `[`, a command string behind `]` that a
BEL ends, or another kind of string.  CAN and SUB end any sequence.

`strip` leaves what a terminal without colours would be sent: printable characters and the
white space of ASCII.  White space that a terminal would act upon in the midst of a sequence
ends it.
-/

namespace ResultPages

namespace Terminal

/-- Where in a sequence a text stands. -/
inductive State where
  | ground
  | escape
  | intermediate
  | control
  | command
  | string
deriving DecidableEq, Repr

/-- White space that moves the cursor. -/
def isLayout (c : Char) : Bool := c == '\t' || c == '\n' || c == '\x0c' || c == '\r'

/-- The state behind a character that is not shown; nothing if the character is shown. -/
def State.hide? (s : State) (c : Char) : Option State :=
  let n := c.toNat
  if n = 0x1B then some escape
  else if n = 0x18 ∨ n = 0x1A then some ground
  else if 0x80 ≤ n then none
  else
    match s with
    | ground => if isLayout c ∨ (0x20 ≤ n ∧ n ≠ 0x7F) then none else some ground
    | escape =>
      if isLayout c then none
      else if n < 0x20 ∨ n = 0x7F then some escape
      else if n < 0x30 then some intermediate
      else if c = '[' then some control
      else if c = ']' then some command
      else if c = 'P' ∨ c = 'X' ∨ c = '^' ∨ c = '_' then some string
      else some ground
    | intermediate =>
      if isLayout c then none
      else if n < 0x30 ∨ n = 0x7F then some intermediate
      else some ground
    | control =>
      if isLayout c then none
      else if n < 0x40 ∨ n = 0x7F then some control
      else some ground
    | command => if n = 0x07 then some ground else some command
    | string => some string

/-- The characters that are shown, from a given state on. -/
def stripFrom (s : State) : List Char → List Char
  | [] => []
  | c :: cs =>
    match s.hide? c with
    | some t => stripFrom t cs
    | none => c :: stripFrom .ground cs

/-- A text without escape sequences and unprintable characters. -/
def strip (cs : List Char) : List Char := stripFrom .ground cs

end Terminal

end ResultPages
