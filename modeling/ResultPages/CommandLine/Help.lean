/-
Help texts and the version.

A help text has a line about the command, its usage, and tables with one row for a command
or an option.  The left sides of a table fill a column as wide as the widest of them.  An
option that can be set by a variable is shown with the variable and its present value, an
option with a default is shown with that.
-/
import ResultPages.CommandLine.Invocation
import ResultPages.Health

namespace ResultPages

namespace Help

/-- What is said about the program. -/
def aboutProgram : String := "Email confirmation and password reset status pages"

/-- What a command does. -/
def aboutCommand : String → String
  | "link" => "Print the result page URL the identity service redirects to"
  | _ => "Print this message or the help of the given subcommand(s)"

/-! ### Rows -/

/-- One row of a table. -/
structure Row where
  /-- What is explained. -/
  left : Styled
  /-- The explanation. -/
  right : String

/-- The width of a styled text. -/
def width (t : Styled) : Nat := t.foldl (fun n s => n + s.text.length) 0

/-- Some spaces. -/
def spaces (n : Nat) : String := String.ofList (List.replicate n ' ')

/-- The text with every further line moved to the right. -/
def indent (column : Nat) (s : String) : String :=
  String.ofList (s.toList.flatMap fun c =>
    if c = '\n' then '\n' :: List.replicate column ' ' else [c])

/-- A row whose right side begins in a given column. -/
def Row.render (column : Nat) (r : Row) : Styled :=
  normal "  " :: r.left ++
    [normal (spaces (column - 2 - width r.left) ++ indent column r.right ++ "\n")]

/-- A table under its heading. -/
def table (heading : String) (rows : List Row) : Styled :=
  let column := rows.foldl (fun n r => max n (width r.left)) 0 + 4
  ⟨.header, heading⟩ :: normal "\n" :: rows.flatMap (·.render column)

/-! ### Options -/

/-- What an option is for. -/
def about : Opt → String
  | .value .port => "Port to listen on"
  | .value .title => "Product name shown on the result pages"
  | .value .host => "Host the identity service was reached on, e.g. id.example.com"
  | .value .flow => "Result page: confirmation or password-reset"
  | .value .status => "Status code, e.g. success, already_confirmed, failure"
  | .switch .verbose => "Verbosity level: ERROR, WARN, INFO, DEBUG, TRACE (default: ERROR)"
  | .switch .help => "Print help"
  | .switch .version => "Print version"

/-- The variable that sets an option. -/
def variableOf : Opt → Option String
  | .value .port => some Invocation.portVariable
  | .value .title => some Invocation.titleVariable
  | .switch .verbose => some Invocation.verbosityVariable
  | _ => none

/-- The default of an option as it is shown. -/
def defaultOf : Opt → Option String
  | .value .port => some (Nat.repr Invocation.defaultPort)
  | .value .title => some ("\"" ++ defaultTitle ++ "\"")
  | _ => none

/-- The option as it is spelled, with its letter if it has one. -/
def spelling (o : Opt) : Styled :=
  let letter := match o.letter? with
    | some c => [literal ("-" ++ c.toString), normal ", "]
    | none => [normal "    "]
  let value := match o with
    | .value o => [placeholder " ", placeholder ("<" ++ o.name ++ ">")]
    | .switch .verbose => [placeholder "..."]
    | .switch _ => []
  letter ++ literal ("--" ++ o.name) :: value

/-- The row of an option. -/
def optionRow (env : Environment) (o : Opt) : Row :=
  let fromVariable := match variableOf o with
    | some v => " [env: " ++ v ++ "=" ++ Octets.toStringLossy ((env.get? v).getD []) ++ "]"
    | none => ""
  let fallback := match defaultOf o with
    | some d => " [default: " ++ d ++ "]"
    | none => ""
  ⟨spelling o, about o ++ fromVariable ++ fallback⟩

/-- The table of the options of a command. -/
def optionTable (env : Environment) (c : Command) : Styled :=
  table "Options:" (c.options.map (optionRow env))

/-- The row of a command. -/
def commandRow (word : String) : Row := ⟨[literal word], aboutCommand word⟩

/-! ### Texts -/

/-- An option that is required, as it stands in a usage. -/
def requiredUsage (o : ValueOption) : Styled :=
  [normal " ", literal ("--" ++ o.name), placeholder " ", placeholder ("<" ++ o.name ++ ">")]

/-- How a command is used. -/
def usage : HelpTopic → Styled
  | .command .serve =>
    [literal Health.program, normal " ", placeholder "[OPTIONS]", normal " ", placeholder "[COMMAND]"]
  | .command .link =>
    [literal (Health.program ++ " link"), normal " ", placeholder "[OPTIONS]"] ++
      [ValueOption.host, .flow, .status].flatMap requiredUsage
  | .help => [literal (Health.program ++ " help"), normal " ", placeholder "[COMMAND]..."]

/-- The first line of a help text. -/
def headline : HelpTopic → String
  | .command .serve => aboutProgram
  | .command .link => aboutCommand Command.linkWord
  | .help => aboutCommand Command.helpWord

/-- The tables of a help text. -/
def tables (env : Environment) : HelpTopic → Styled
  | .command .serve =>
    table "Commands:" [commandRow Command.linkWord, commandRow Command.helpWord] ++
      normal "\n" :: optionTable env .serve
  | .command .link => optionTable env .link
  | .help =>
    table "Arguments:" [⟨[placeholder "[COMMAND]..."], "Print help for the subcommand(s)"⟩]

/-- A help text. -/
def text (env : Environment) (topic : HelpTopic) : Styled :=
  normal (headline topic ++ "\n\n") :: ⟨.usage, "Usage:"⟩ :: normal " " :: usage topic ++
    normal "\n\n" :: tables env topic

/-- The version, with the commit or without. -/
def version (build : Health) (long : Bool) : Styled :=
  [normal (build.name ++ " " ++ build.version ++
    (if long then " - " ++ build.commit else "") ++ "\n")]

end Help

/-- What a user gets to see when the reading of a command line ends early: help and version in
full, of an error the first paragraph. -/
def Complaint.shown (build : Health) (env : Environment) (paint : Bool) (c : Complaint) :
    String :=
  match c with
  | .help topic => (Help.text env topic).render paint
  | .version long => (Help.version build long).render paint
  | c => firstParagraph (c.report.render paint)

end ResultPages
