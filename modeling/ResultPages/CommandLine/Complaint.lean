/-
What ends the reading of a command line early: an error, or a request for help or for the
version.

`Complaint.report` is the text of an error, styled.  Of what a user gets to see it is the
first paragraph.
-/
import ResultPages.CommandLine.Option
import ResultPages.CommandLine.Value
import ResultPages.Terminal.Styled
import ResultPages.Text.Blank

namespace ResultPages

/-- What help is asked about. -/
inductive HelpTopic where
  | command (c : Command)
  | help
deriving DecidableEq, Repr

/-- Why reading a command line ends. -/
inductive Complaint where
  /-- The value of an option or a variable is not as it has to be. -/
  | badValue (value argument : String) (cause : ValueError)
  /-- An option stands without its value. -/
  | noValue (option : ValueOption)
  /-- An option is given twice. -/
  | repeated (option : ValueOption)
  /-- A switch is given a value. -/
  | needlessValue (value : String) (switch : Switch)
  /-- No option is spelled like this, or no word is expected here. -/
  | unknownArgument (text : String)
  /-- No command is called like this. -/
  | unknownCommand (text : String)
  /-- Options that a command needs are not there. -/
  | missing (options : List ValueOption)
  /-- A value is not UTF-8. -/
  | notText
  /-- Help is asked for. -/
  | help (topic : HelpTopic)
  /-- The version is asked for, with the commit or without. -/
  | version (long : Bool)
deriving DecidableEq, Repr

namespace Complaint

/-- The text of an error behind its first word. -/
def explain : Complaint → Styled
  | badValue value argument cause =>
    [normal "invalid value '", ⟨.invalid, value⟩, normal "' for '", literal argument,
      normal ("': " ++ cause.message)]
  | noValue o =>
    [normal "a value is required for '", ⟨.invalid, o.usage⟩,
      normal "' but none was supplied"]
  | repeated o =>
    [normal "the argument '", ⟨.invalid, o.usage⟩, normal "' cannot be used multiple times"]
  | needlessValue value s =>
    [normal "unexpected value '", ⟨.invalid, value⟩, normal "' for '", literal s.usage,
      normal "' found; no more were expected"]
  | unknownArgument text =>
    [normal "unexpected argument '", ⟨.invalid, text⟩, normal "' found"]
  | unknownCommand text =>
    [normal "unrecognized subcommand '", ⟨.invalid, text⟩, normal "'"]
  | missing os =>
    normal "the following required arguments were not provided:" ::
      os.flatMap fun o => [normal "\n  ", placeholder o.usage]
  | notText => [normal "invalid UTF-8 was detected in one or more arguments"]
  | help _ | version _ => []

/-- The text of an error. -/
def report (c : Complaint) : Styled := ⟨.error, "error:"⟩ :: normal " " :: c.explain

/-- Whether the program did what it was asked for. -/
def isAnswer : Complaint → Bool
  | help _ | version _ => true
  | _ => false

/-- The exit code of a program that ends like this. -/
def exitCode (c : Complaint) : Nat := if c.isAnswer then 0 else 2

end Complaint

/-- The first paragraph of a text, without white space at its end. -/
def firstParagraph (s : String) : String :=
  String.ofList (trimEnd isBlank (go s.toList))
where
  /-- The characters up to the first empty line. -/
  go : List Char → List Char
    | '\n' :: '\n' :: _ => []
    | c :: cs => c :: go cs
    | [] => []

end ResultPages
