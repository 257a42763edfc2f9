/-
From what is declared of options to the action that is asked for.

`Invocation` tells in one piece what a command line asks for.  Here the two halves of that are
apart.  The first half knows of every option what is declared of it: which variable stands in
for it, its default, whether its command can do without it.  What it finds are values of several
types, kept by option (`Findings`), for the main command and for the one behind it (`Reading`).
The second half takes the action from there.  It asks for options by type, has defaults of its
own, and fails if an option has no value, has a value of another type, or is none of its command
(`Reading.action`).
-/
import ResultPages.CommandLine.Invocation

namespace ResultPages

/-! ### Values and their types -/

/-- The types of the values of options. -/
inductive ValueType where
  | port
  | count
  | text
  | flow
deriving DecidableEq, Repr

/-- The values of a type. -/
abbrev ValueType.Carrier : ValueType → Type
  | port | count => Nat
  | text => String
  | flow => Flow

/-- A value of an option. -/
inductive OptionValue where
  | port (n : Nat)
  | count (n : Nat)
  | text (s : String)
  | flow (f : Flow)
deriving DecidableEq, Repr

/-- A value as one of a given type, if it is one. -/
def OptionValue.as? : (t : ValueType) → OptionValue → Option t.Carrier
  | .port, .port n => some n
  | .count, .count n => some n
  | .text, .text s => some s
  | .flow, .flow f => some f
  | _, _ => none

/-! ### What is declared of options -/

/-- A variable that stands in for an option, and how its octets are read. -/
structure Variable where
  /-- The name of the variable. -/
  name : String
  /-- The value that its octets spell. -/
  read : Octets → Except Complaint OptionValue

namespace Opt

/-- The variable that stands in for an option. -/
def standIn? : Opt → Option Variable
  | value .port => some ⟨Invocation.portVariable, fun v => (Invocation.readPort v).map .port⟩
  | value .title => some ⟨Invocation.titleVariable, fun v => (readText v).map .text⟩
  | switch .verbose =>
    some ⟨Invocation.verbosityVariable, fun v => (Invocation.readVerbosity v).map .count⟩
  | _ => none

/-- The value of an option that is not there. -/
def default? : Opt → Option OptionValue
  | value .port => some (.port Invocation.defaultPort)
  | value .title => some (.text defaultTitle)
  | switch .verbose => some (.count 0)
  | _ => none

/-- The value that has been given for an option. -/
def given? (g : Given) : Opt → Option OptionValue
  | value .port => g.port.map .port
  | value .title => g.title.map .text
  | value .host => g.host.map .text
  | value .flow => g.flow.map .flow
  | value .status => g.status.map .text
  | switch .verbose => g.verbosity.map .count
  | switch _ => none

/-- What is found for an option: on the command line, in its variable, or else its default. -/
def find (env : Environment) (g : Given) (o : Opt) :
    Except Complaint (Option (Setting OptionValue)) :=
  match o.given? g with
  | some v => .ok (some ⟨v, .commandLine⟩)
  | none =>
    match o.standIn?.bind fun x => (env.get? x.name).map x.read with
    | some read => read.map fun v => some ⟨v, .environment⟩
    | none => .ok (o.default?.map (⟨·, .default⟩))

end Opt

/-- The options that a command cannot do without. -/
def Command.required : Command → List ValueOption
  | serve => []
  | link => [.host, .flow, .status]

/-! ### What is found for a command -/

/-- What is found for the options of a command. -/
structure Findings where
  /-- The command. -/
  command : Command
  /-- The options with something found for them. -/
  settings : List (Opt × Setting OptionValue)
deriving DecidableEq, Repr

/-- Why an option cannot be looked up. -/
inductive LookupError where
  /-- The command has no such option. -/
  | undeclared (o : Opt)
  /-- The value that is found has another type. -/
  | otherType (o : Opt)
deriving DecidableEq, Repr

namespace Findings

/-- What is found for some options. -/
def collect (env : Environment) (g : Given) :
    List Opt → Except Complaint (List (Opt × Setting OptionValue))
  | [] => .ok []
  | o :: os => do
    let found ← o.find env g
    let settings ← collect env g os
    match found with
    | some x => return (o, x) :: settings
    | none => return settings

/-- The options that are missing. -/
def missing (m : Findings) : List ValueOption :=
  m.command.required.filter fun o => (m.settings.lookup (.value o)).isNone

/-- What is found for a command whose arguments have given something.  All options that are
missing are reported together. -/
def read (env : Environment) (c : Command) (g : Given) : Except Complaint Findings := do
  let settings ← collect env g c.options
  let m : Findings := ⟨c, settings⟩
  if m.missing = [] then return m else .error (.missing m.missing)

/-- The value of an option, if there is one. -/
def get? (m : Findings) (t : ValueType) (o : Opt) : Except LookupError (Option t.Carrier) :=
  if o ∈ m.command.options then
    match m.settings.lookup o with
    | none => .ok none
    | some x =>
      match x.value.as? t with
      | some v => .ok (some v)
      | none => .error (.otherType o)
  else .error (.undeclared o)

/-- Other settings for an option. -/
def replace (m : Findings) (o : Opt) (x : Setting OptionValue) : Findings :=
  { m with settings := m.settings.map fun p => if p.1 = o then (o, x) else p }

end Findings

/-! ### What is found for a command line -/

/-- What is found for a command line. -/
structure Reading where
  /-- For the main command. -/
  main : Findings
  /-- For the command behind the word `link`, if that word is there. -/
  link : Option Findings
deriving DecidableEq, Repr

namespace Reading

/-- The verbosity that holds for two commands, put into both of them. -/
def shareVerbosity (outer inner : Findings) : Reading :=
  match outer.settings.lookup (.switch .verbose), inner.settings.lookup (.switch .verbose) with
  | some x, some y =>
    ⟨outer.replace (.switch .verbose) (x.stronger y),
      some (inner.replace (.switch .verbose) (x.stronger y))⟩
  | _, _ => ⟨outer, some inner⟩

/-- Reads the arguments behind the word `link`. -/
def readLink (env : Environment) (args : List Octets) : Except Complaint Findings := do
  let (scan, _) ← Scan.start.run .link args
  let g ← scan.settle
  Findings.read env .link g

/-- Reads a command line. -/
def read (env : Environment) (args : List Octets) : Except Complaint Reading := do
  let (scan, rest) ← Scan.start.run .serve args
  let inner ← match rest with
    | none => pure none
    | some rest => some <$> readLink env rest
  let g ← scan.settle
  let outer ← Findings.read env .serve g
  match inner with
  | none => return ⟨outer, none⟩
  | some inner => return shareVerbosity outer inner

end Reading

/-! ### The action -/

/-- What the program is to do, with what it needs for that. -/
inductive Action where
  | serve (port : Nat) (title : String)
  | link (host : String) (flow : Flow) (status : String)
deriving DecidableEq, Repr

/-- Why no action is taken from what has been found. -/
inductive ActionError where
  | lookup (cause : LookupError)
  | missing (o : ValueOption)
deriving DecidableEq, Repr

/-- The wording of an error; a look-up that fails stops the program without one. -/
def ActionError.message? : ActionError → Option String
  | lookup _ => none
  | missing o => some ("missing required argument: --" ++ o.name)

namespace Findings

/-- The value of an option that has to be there. -/
def require (m : Findings) (t : ValueType) (o : ValueOption) : Except ActionError t.Carrier :=
  match m.get? t (.value o) with
  | .error e => .error (.lookup e)
  | .ok none => .error (.missing o)
  | .ok (some v) => .ok v

/-- The value of an option that can be left out. -/
def getD (m : Findings) (t : ValueType) (o : ValueOption) (fallback : t.Carrier) :
    Except ActionError t.Carrier :=
  match m.get? t (.value o) with
  | .error e => .error (.lookup e)
  | .ok v => .ok (v.getD fallback)

end Findings

/-- The action that is asked for. -/
def Reading.action (r : Reading) : Except ActionError Action :=
  match r.link with
  | some m => do
    let host ← m.require .text .host
    let flow ← m.require .flow .flow
    let status ← m.require .text .status
    return .link host flow status
  | none => do
    let port ← r.main.getD .port .port Invocation.defaultPort
    let title ← r.main.getD .text .title defaultTitle
    return .serve port title

end ResultPages
