/-
The command line of the program.

A server reads its requests from standard input, one after the other, and answers on standard
output, so that a listener that hands over connections can run it.  Everything that is
decided is decided by `Program.run` and `Service.answer`.  No hash of a commit is built into it.
-/
import ResultPages.Http.Wire
import ResultPages.Program
import ResultPages.Service
import ResultPages.Ulid

namespace ResultPages

/-- The variables that the program looks at. -/
def knownVariables : List String :=
  [Invocation.portVariable, Invocation.titleVariable, Invocation.verbosityVariable,
    Export.endpointVariable, Export.instanceVariable, Program.logVariable]

/-- Reads the environment. -/
def readEnvironment : IO Environment := do
  let values ← knownVariables.mapM fun name => return (← IO.getEnv name).map fun v => (name, v)
  return (values.filterMap id).map fun (name, v) => (name, Octets.ofString v)

/-- Reads the lines up to an empty one; nothing if the input has ended. -/
partial def readLines (input : IO.FS.Stream) (lines : List Octets) : IO (Option (List Octets)) := do
  let line ← input.getLine
  if line.isEmpty then return none
  let bare := Octets.ofString (line.trimAsciiEnd.toString)
  if bare.isEmpty then return some lines.reverse else readLines input (bare :: lines)

/-- A fresh identifier. -/
def freshId : IO Ulid := do
  let random ← IO.rand 0 0xFFFFFFFFFFFFFFFFFFFF
  return Ulid.ofParts (← IO.monoMsNow) random

/-- The hash of the commit that this program was built from. -/
def builtFrom : Option String := none

/-- Answers requests until the input ends. -/
partial def serve (s : Service) (input output : IO.FS.Stream) : IO Unit := do
  match ← readLines input [] with
  | none => return
  | some lines =>
    let answer ← match Wire.request? lines with
      | none => pure (Response.bare 400 [Service.lengthHeader ""])
      | some r => pure (s.answer (← freshId) r)
    output.write (ByteArray.mk (Wire.response answer).toArray)
    output.flush
    serve s input output

/-- Prints lines where they do not mix with answers. -/
def printNotes (lines : List String) : IO Unit := lines.forM fun line => IO.eprintln line

/-- Runs the program and returns its exit code. -/
def runMain (args : List String) : IO UInt32 := do
  let env ← readEnvironment
  match Program.run env (args.map Octets.ofString) with
  | .stopped c =>
    let text := c.shown (.current builtFrom) env false
    if c.isAnswer then IO.print text else IO.eprintln text
    return UInt32.ofNat c.exitCode
  | .failed notes failure =>
    printNotes notes
    IO.eprint failure.report
    return 1
  | .printed notes link =>
    printNotes notes
    IO.println link.url
    return 0
  | .serving notes server =>
    printNotes (notes ++ server.startLog (.current builtFrom) ++ server.boundLog)
    serve ⟨builtFrom, server.title⟩ (← IO.getStdin) (← IO.getStdout)
    printNotes server.endLog
    return 0

end ResultPages

/-- The entry point. -/
def main (args : List String) : IO UInt32 := ResultPages.runMain args
