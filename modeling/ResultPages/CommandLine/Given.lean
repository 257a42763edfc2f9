/-
What the arguments of one command have given.

An option is taken with its value, which is read at once and kept as what it means.  An
option can be given once.  The switch for verbosity is counted.
-/
import ResultPages.CommandLine.Complaint

namespace ResultPages

/-- The text of a value. -/
def readText (v : Octets) : Except Complaint String :=
  match v.toString? with
  | some s => .ok s
  | none => .error .notText

/-- A value of a certain kind, where `argument` is what it is given for. -/
def readValue {α : Type} (argument : String) (read : String → Except ValueError α)
    (v : Octets) : Except Complaint α :=
  match readText v with
  | .error e => .error e
  | .ok s => (read s).mapError (.badValue s argument)

/-- What the arguments of one command have given. -/
structure Given where
  /-- The value of `--port`. -/
  port : Option Nat
  /-- The value of `--title`. -/
  title : Option String
  /-- The value of `--host`. -/
  host : Option String
  /-- The value of `--flow`. -/
  flow : Option Flow
  /-- The value of `--status`. -/
  status : Option String
  /-- How often `--verbose` was given, if at all. -/
  verbosity : Option Nat
deriving DecidableEq, Repr

namespace Given

/-- Nothing given. -/
def nothing : Given := ⟨none, none, none, none, none, none⟩

/-- Whether an option has been given. -/
def has (g : Given) : ValueOption → Bool
  | .port => g.port.isSome
  | .title => g.title.isSome
  | .host => g.host.isSome
  | .flow => g.flow.isSome
  | .status => g.status.isSome

/-- Reads the value of an option and keeps it. -/
def store (g : Given) (o : ValueOption) (v : Octets) : Except Complaint Given :=
  match o with
  | .port => (readValue o.usage Value.port v).map fun x => { g with port := some x }
  | .title => (readText v).map fun x => { g with title := some x }
  | .host => (readText v).map fun x => { g with host := some x }
  | .flow => (readValue o.usage Value.flow v).map fun x => { g with flow := some x }
  | .status => (readText v).map fun x => { g with status := some x }

/-- Takes an option with its value.  A missing value is reported first, then a second use,
then what is wrong with the value. -/
def take (g : Given) (o : ValueOption) : Option Octets → Except Complaint Given
  | none => .error (.noValue o)
  | some v => if g.has o then .error (.repeated o) else g.store o v

/-- Takes one more switch for verbosity.  The count has to be a verbosity that can be asked
for by number. -/
def louder (g : Given) : Except Complaint Given :=
  let n := g.verbosity.getD 0 + 1
  (Value.verbosity (Nat.repr n)).mapError (.badValue (Nat.repr n) Switch.verbose.usage)
    |>.map fun n => { g with verbosity := some n }

end Given

end ResultPages
