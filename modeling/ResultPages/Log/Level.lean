/-
Levels of detail of the log, and the numbers by which they are asked for.

Every flag that asks for more detail raises the number by one.  Number zero asks for no
level; the log then shows errors only, as it does at the level `error`.
-/
import ResultPages.CodePoint.SmallForm
import ResultPages.Text.Number

namespace ResultPages

/-- How much the log tells. -/
inductive LogLevel where
  | error
  | warn
  | info
  | debug
  | trace
deriving DecidableEq, Repr

namespace LogLevel

/-- All levels, the quietest first. -/
def all : List LogLevel := [error, warn, info, debug, trace]

/-- The name of a level. -/
def name : LogLevel → String
  | error => "error"
  | warn => "warn"
  | info => "info"
  | debug => "debug"
  | trace => "trace"

/-- The name of a level in a line of the log. -/
def label : LogLevel → String
  | error => "ERROR"
  | warn => "WARN"
  | info => "INFO"
  | debug => "DEBUG"
  | trace => "TRACE"

/-- The place of a level among all, from zero. -/
def verbosity : LogLevel → Nat
  | error => 0
  | warn => 1
  | info => 2
  | debug => 3
  | trace => 4

/-- The level that a number asks for. -/
def ofVerbosity? : Nat → Option LogLevel
  | 0 => none
  | 1 => some warn
  | 2 => some info
  | 3 => some debug
  | _ => some trace

/-- The level at which the log runs for a number. -/
def ofVerbosity (n : Nat) : LogLevel := (ofVerbosity? n).getD error

theorem ofVerbosity_verbosity (l : LogLevel) : ofVerbosity l.verbosity = l := by
  cases l <;> rfl

/-- Whether a log that runs at level `l` shows lines of level `line`. -/
def shows (l line : LogLevel) : Bool := line.verbosity ≤ l.verbosity

/-! ### Reading -/

/-- The verbosity that a text asks for: a number of eight bits, if it is at most five, or the
name of a level in any letter case. -/
def readVerbosity? (s : String) : Option Nat :=
  match (Number.natural 255 s.toList).toOption.filter (· ≤ 5) with
  | some n => some n
  | none => (all.find? (·.name.toList = smallText s.toList)).map verbosity

end LogLevel

end ResultPages
