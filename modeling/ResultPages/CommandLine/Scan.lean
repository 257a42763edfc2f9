/-
Going over the arguments of a command line.

The arguments are taken one after the other.  An option that takes a value can have it
attached (`--name=value`, `-nvalue`, `-n=value`) or in the next argument; in the second case
the option *waits*, and what it is given is looked at only when the next option comes or the
arguments end.  Behind `--` no argument is an option or a command word any more.

The arguments of the main command end in front of the word for another command, and
`Scan.run` then returns the arguments that belong to that command.
-/
import ResultPages.CommandLine.Given
import ResultPages.Text.Pieces

namespace ResultPages

/-- How far the arguments have been gone over: what they gave, and the option that waits, with
the value that it has been given. -/
structure Scan where
  /-- What has been looked at. -/
  given : Given
  /-- The option that waits, and the value that it has been given, if it has. -/
  waiting : Option (ValueOption × Option Octets)
deriving DecidableEq, Repr

namespace Scan

/-- In front of the first argument. -/
def start : Scan := ⟨.nothing, none⟩

/-- Whether the next argument is the value of an option. -/
def wantsValue (s : Scan) : Bool :=
  match s.waiting with
  | some (_, none) => true
  | _ => false

/-- Gives an argument to the option that waits for it, if there is one. -/
def fill? (s : Scan) (a : Octets) : Option Scan :=
  match s.waiting with
  | some (o, none) => some { s with waiting := some (o, some a) }
  | _ => none

/-- Takes the option that waits. -/
def settle (s : Scan) : Except Complaint Given :=
  match s.waiting with
  | none => .ok s.given
  | some (o, v) => s.given.take o v

/-- Takes a switch, after the option that waits.  The version is told at length when it is
asked for by name. -/
def takeSwitch (c : Command) (byName : Bool) (s : Scan) (w : Switch) : Except Complaint Scan :=
  match s.settle with
  | .error e => .error e
  | .ok g =>
    match w with
    | .verbose => g.louder.map fun g => ⟨g, none⟩
    | .help => .error (.help (.command c))
    | .version => .error (.version byName)

/-- Takes an option with a value, after the option that waits.  Without an attached value it
waits itself. -/
def takeValue (s : Scan) (o : ValueOption) (attached : Option Octets) : Except Complaint Scan :=
  match s.settle with
  | .error e => .error e
  | .ok g =>
    match attached with
    | some v => (g.take o (some v)).map fun g => ⟨g, none⟩
    | none => .ok ⟨g, some (o, none)⟩

/-- Takes an argument `--name` or `--name=value`, given what follows the hyphens. -/
def takeName (c : Command) (s : Scan) (a : Octets) : Except Complaint Scan :=
  let parts := cut '='.toUInt8 a
  match c.ofName? parts.1, parts.2 with
  | some (.switch w), none => s.takeSwitch c true w
  | some (.switch w), some v => .error (.needlessValue (Octets.toStringLossy v) w)
  | some (.value o), attached => s.takeValue o attached
  | none, _ => .error (.unknownArgument ("--" ++ Octets.toStringLossy parts.1))

/-- The value attached to a letter; one equals sign in front of it does not count. -/
def attached? : Octets → Option Octets
  | [] => none
  | b :: bs => some (if b = '='.toUInt8 then bs else b :: bs)

/-- The first character of some octets; all of them if they do not begin with one. -/
def firstCharacter : Octets → String
  | [] => ""
  | b :: bs =>
    match Utf8.unit b bs with
    | (some c, _) => c.toString
    | (none, _) => Octets.toStringLossy (b :: bs)

/-- Takes an argument `-letters`, given what follows the hyphen.  A letter that takes a value
has the rest of the argument for it. -/
def takeLetters (c : Command) (s : Scan) : Octets → Except Complaint Scan
  | [] => .ok s
  | b :: bs =>
    match if b < 0x80 then c.ofLetter? (Char.ofNat b.toNat) else none with
    | some (.switch w) =>
      match s.takeSwitch c false w with
      | .error e => .error e
      | .ok s => s.takeLetters c bs
    | some (.value o) => s.takeValue o (attached? bs)
    | none => .error (.unknownArgument ("-" ++ firstCharacter (b :: bs)))

/-! ### Words -/

/-- What help the words behind `help` ask for. -/
def helpTopic : List Octets → Complaint
  | [] => .help (.command .serve)
  | a :: as =>
    let topic := if a = Octets.ofString Command.linkWord then some (HelpTopic.command .link)
      else if a = Octets.ofString Command.helpWord then some .help
      else none
    match topic, as with
    | none, _ => .unknownCommand (Octets.toStringLossy a)
    | some t, [] => .help t
    | some _, b :: _ => .unknownCommand (Octets.toStringLossy b)

/-- What to say about a word that nothing waits for. -/
def stray (c : Command) (behindDashes : Bool) (a : Octets) : Complaint :=
  match c with
  | .link => .unknownArgument (Octets.toStringLossy a)
  | .serve =>
    if behindDashes && Command.isCommandWord a then .unknownArgument (Octets.toStringLossy a)
    else .unknownCommand (Octets.toStringLossy a)

/-- Whether an argument begins with a hyphen and goes on. -/
def isDashed : Octets → Bool
  | b :: _ :: _ => b = '-'.toUInt8
  | _ => false

/-- Takes an argument that begins with a hyphen and goes on. -/
def takeDashed (c : Command) (s : Scan) (a : Octets) : Except Complaint Scan :=
  match a.drop 1 with
  | [] => .ok s
  | b :: bs => if b = '-'.toUInt8 then s.takeName c bs else s.takeLetters c (b :: bs)

/-- Goes over the arguments of a command.  For the main command the result tells the
arguments behind the word `link`, if that word ends it. -/
def run (c : Command) (s : Scan) : List Octets → Except Complaint (Scan × Option (List Octets))
  | [] => .ok (s, none)
  | a :: as =>
    if c = .serve ∧ !s.wantsValue ∧ a = Octets.ofString Command.helpWord then
      .error (helpTopic as)
    else if c = .serve ∧ !s.wantsValue ∧ a = Octets.ofString Command.linkWord then
      .ok (s, some as)
    else if a = Octets.ofString "--" then
      match as with
      | [] => .ok (s, none)
      | b :: _ => .error (stray c true b)
    else if isDashed a then
      match s.takeDashed c a with
      | .error e => .error e
      | .ok s => s.run c as
    else
      match s.fill? a with
      | some s => s.run c as
      | none => .error (stray c false a)

end Scan

end ResultPages
