/-
What a command line and the environment ask for.

Every setting is looked for on the command line, then in the environment, and then has a
default; its source is kept with it.  A variable is read only if the option is not given.

Both commands have a verbosity.  When a link is asked for, each command reads its own, and
the one from the stronger source holds for both; of two from the same kind of source it is
the one given behind the word `link`.
-/
import ResultPages.CommandLine.Environment
import ResultPages.CommandLine.Scan
import ResultPages.Page

namespace ResultPages

/-- Where a setting comes from, the weakest source first. -/
inductive Source where
  | default
  | environment
  | commandLine
deriving DecidableEq, Repr

namespace Source

/-- The strength of a source. -/
def rank : Source → Nat
  | default => 0
  | environment => 1
  | commandLine => 2

end Source

/-- A value and its source. -/
structure Setting (α : Type) where
  /-- The value that holds. -/
  value : α
  /-- Where it comes from. -/
  source : Source
deriving DecidableEq, Repr

namespace Setting

variable {α : Type}

/-- The setting for what is given on the command line, a variable with the way to read it,
and a default. -/
def resolve (given : Option α) (fromVariable : Option Octets)
    (read : Octets → Except Complaint α) (default : α) : Except Complaint (Setting α) :=
  match given with
  | some x => .ok ⟨x, .commandLine⟩
  | none =>
    match fromVariable with
    | some v => (read v).map (⟨·, .environment⟩)
    | none => .ok ⟨default, .default⟩

/-- The setting from the stronger source, the inner one if both are equal. -/
def stronger (outer inner : Setting α) : Setting α :=
  if inner.source.rank < outer.source.rank then outer else inner

end Setting

/-- What the program is to do, in full. -/
inductive Task where
  | serve
  | link (host : String) (flow : Flow) (status : String)
deriving DecidableEq, Repr

/-- A command line that has been read. -/
structure Invocation where
  /-- The port to listen on. -/
  port : Setting Nat
  /-- The title of the pages. -/
  title : Setting String
  /-- How much the log tells, by number. -/
  verbosity : Setting Nat
  /-- What to do. -/
  task : Task
deriving DecidableEq, Repr

namespace Invocation

/-! ### Variables and defaults -/

/-- The variable for the port. -/
def portVariable : String := "STATUS_PAGES_PORT"

/-- The variable for the title. -/
def titleVariable : String := "STATUS_PAGES_TITLE"

/-- The variable for the verbosity. -/
def verbosityVariable : String := "STATUS_PAGES_LOG_LEVEL"

/-- The port if none is given. -/
def defaultPort : Nat := 8080

/-- Reads a port. -/
def readPort : Octets → Except Complaint Nat := readValue ValueOption.port.usage Value.port

/-- Reads a verbosity. -/
def readVerbosity : Octets → Except Complaint Nat :=
  readValue Switch.verbose.usage Value.verbosity

/-- The port that is asked for. -/
def portSetting (env : Environment) (g : Given) : Except Complaint (Setting Nat) :=
  Setting.resolve g.port (env.get? portVariable) readPort defaultPort

/-- The title that is asked for. -/
def titleSetting (env : Environment) (g : Given) : Except Complaint (Setting String) :=
  Setting.resolve g.title (env.get? titleVariable) readText defaultTitle

/-- The verbosity that is asked for. -/
def verbositySetting (env : Environment) (g : Given) : Except Complaint (Setting Nat) :=
  Setting.resolve g.verbosity (env.get? verbosityVariable) readVerbosity 0

/-! ### Reading a command line -/

/-- The link that is asked for.  All options that are not there are reported together. -/
def linkTask (g : Given) : Except Complaint Task :=
  match g.host, g.flow, g.status with
  | some host, some flow, some status => .ok (.link host flow status)
  | _, _, _ =>
    .error (.missing ([.host, .flow, .status].filter fun o => !g.has o))

/-- Reads the arguments behind the word `link`: the link, and the verbosity given there. -/
def readLink (env : Environment) (args : List Octets) :
    Except Complaint (Task × Setting Nat) := do
  let (scan, _) ← Scan.start.run .link args
  let g ← scan.settle
  let verbosity ← verbositySetting env g
  let task ← linkTask g
  return (task, verbosity)

/-- Reads a command line.  The arguments for a link are read before what waits in front of
the word `link` is looked at. -/
def parse (env : Environment) (args : List Octets) : Except Complaint Invocation := do
  let (scan, rest) ← Scan.start.run .serve args
  let inner ← match rest with
    | none => pure none
    | some rest => some <$> readLink env rest
  let g ← scan.settle
  let port ← portSetting env g
  let title ← titleSetting env g
  let outer ← verbositySetting env g
  match inner with
  | none => return ⟨port, title, outer, .serve⟩
  | some (task, verbosity) => return ⟨port, title, outer.stronger verbosity, task⟩

end Invocation

end ResultPages
