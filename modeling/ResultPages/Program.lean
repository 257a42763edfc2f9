/-
The program: what a command line and an environment lead to.

Reading the command line comes first, then the log and the exporter are set up, and then
the task is done.  A link is printed.  Serving goes on until the process is told to stop;
`Serving` says what is needed for it and what is logged meanwhile.
-/
import ResultPages.CommandLine.Help
import ResultPages.Export
import ResultPages.Link
import ResultPages.Log.Filter

namespace ResultPages

/-- A server that is ready to start. -/
structure Serving where
  /-- The port to listen on. -/
  port : Nat
  /-- The title of the pages. -/
  title : String
  /-- Which lines the log shows. -/
  filter : LogFilter
deriving DecidableEq, Repr

namespace Serving

/-- The target of the lines that the server logs. -/
def target : String := "status_pages"

/-- A line of the log at the level `info`, if it is shown. -/
def line (s : Serving) (text : String) : List String :=
  if s.filter.shows target .info then [LogLevel.info.label ++ " " ++ text] else []

/-- The log before the port is bound. -/
def startLog (s : Serving) (build : Health) : List String :=
  s.line (build.name ++ " " ++ build.version ++ " starting port=" ++ Nat.repr s.port ++
    " title=" ++ s.title ++ " commit=" ++
    String.ofList (Quoted.text (shortCommit build.commit).toList))

/-- The log when the port is bound. -/
def boundLog (s : Serving) : List String :=
  s.line ("Listening on " ++ Nat.repr s.port)

/-- The log when the process is told to stop. -/
def endLog (s : Serving) : List String := s.line "Gracefully shutdown"

end Serving

/-- A failure and what lies below it. -/
structure Failure where
  /-- What failed. -/
  message : String
  /-- What lies below it, the nearest cause first. -/
  causes : List String
deriving DecidableEq, Repr

namespace Failure

/-- The text of a failure. -/
def report (f : Failure) : String :=
  "Error: " ++ f.message ++ "\n" ++
    match f.causes with
    | [] => ""
    | causes => "\nCaused by:\n" ++ String.join (causes.map fun c => "    " ++ c ++ "\n")

/-- The failure to make a link. -/
def ofLinkError (e : LinkError) : Failure := ⟨e.message, e.causes⟩

/-- The failure to set up the exporter. -/
def ofExport (e : Export) (cause : TargetError) : Failure :=
  ⟨"Failed to build span exporter for " ++ e.endpoint,
    ["Exporter otlp encountered the following error(s): invalid URI " ++ cause.message]⟩

/-- The failure to bind a port that is taken. -/
def portTaken (port : Nat) : Failure :=
  ⟨"Failed to bind port " ++ Nat.repr port, ["Address already in use (os error 98)"]⟩

end Failure

/-- What running the program comes to. -/
inductive Ending where
  /-- The command line was not read to its end. -/
  | stopped (complaint : Complaint)
  /-- The program failed, after some notes. -/
  | failed (notes : List String) (failure : Failure)
  /-- The program printed a link, after some notes. -/
  | printed (notes : List String) (link : Link)
  /-- The program serves the pages, after some notes. -/
  | serving (notes : List String) (server : Serving)

namespace Program

/-- The variable with instructions for the log. -/
def logVariable : String := "RUST_LOG"

/-- The failure of the exporter, if it is on. -/
def exportFailure? (env : Environment) : Option Failure :=
  match Export.ofEnvironment (.ofParts 0 0) env with
  | none => none
  | some e => (Export.failure? env).map (Failure.ofExport e)

/-- Does the task of a command line that has been read. -/
def execute (env : Environment) (i : Invocation) : Ending :=
  let instructions := (env.text? logVariable).getD ""
  let notes := LogFilter.notes instructions
  match exportFailure? env with
  | some failure => .failed notes failure
  | none =>
    match i.task with
    | .serve =>
      .serving notes ⟨i.port.value, i.title.value,
        .ofText (.ofVerbosity i.verbosity.value) instructions⟩
    | .link host flow status =>
      match Link.ofStatus host flow status with
      | .ok l => .printed notes l
      | .error e => .failed notes (.ofLinkError e)

/-- Runs the program. -/
def run (env : Environment) (args : List Octets) : Ending :=
  match Invocation.parse env args with
  | .error c => .stopped c
  | .ok i => execute env i

end Program

end ResultPages
