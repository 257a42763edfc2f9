/-
Values of options: what a text has to be like, and what is wrong with it.

A port is a decimal number with an optional sign, of any number of digits, whose value lies
in 0..65535.  It is read as a signed number of 64 bits first, and what is wrong with that is
reported before the range is looked at.
-/
import ResultPages.Flow
import ResultPages.Log.Level
import ResultPages.Text.Number

namespace ResultPages

/-- What is wrong with the value of an option. -/
inductive ValueError where
  | number (cause : NumberError)
  | portOutOfRange (n : Int)
  | unknownFlow (name : String)
  | invalidLevel
deriving DecidableEq, Repr

/-- The wording of an error. -/
def ValueError.message : ValueError → String
  | number cause => cause.message
  | portOutOfRange n => n.repr ++ " is not in 0..=65535"
  | unknownFlow name => Flow.unknownMessage name
  | invalidLevel => "invalid log level"

namespace Value

/-- A port. -/
def port (s : String) : Except ValueError Nat :=
  match Number.int64 s.toList with
  | .error e => .error (.number e)
  | .ok n => if 0 ≤ n ∧ n ≤ 65535 then .ok n.toNat else .error (.portOutOfRange n)

/-- A flow. -/
def flow (s : String) : Except ValueError Flow :=
  match Flow.ofName? s with
  | some f => .ok f
  | none => .error (.unknownFlow s)

/-- A verbosity. -/
def verbosity (s : String) : Except ValueError Nat :=
  match LogLevel.readVerbosity? s with
  | some n => .ok n
  | none => .error .invalidLevel

end Value

end ResultPages
