/-
The commands of the program and their options.

Without a command word the program serves the pages; the command `link` prints a link.  An
option either takes a value or is a switch.  The switch for verbosity belongs to both
commands.
-/
import ResultPages.Text.Utf8

namespace ResultPages

/-- What the program is told to do. -/
inductive Command where
  | serve
  | link
deriving DecidableEq, Repr

/-- The options that take a value. -/
inductive ValueOption where
  | port
  | title
  | host
  | flow
  | status
deriving DecidableEq, Repr

/-- The options that stand alone. -/
inductive Switch where
  | verbose
  | help
  | version
deriving DecidableEq, Repr

/-- An option. -/
inductive Opt where
  | value (o : ValueOption)
  | switch (s : Switch)
deriving DecidableEq, Repr

namespace ValueOption

/-- The long name of an option. -/
def name : ValueOption → String
  | port => "port"
  | title => "title"
  | host => "host"
  | flow => "flow"
  | status => "status"

/-- The option with its value, as it is shown. -/
def usage (o : ValueOption) : String := "--" ++ o.name ++ " <" ++ o.name ++ ">"

end ValueOption

namespace Switch

/-- The long name of a switch. -/
def name : Switch → String
  | verbose => "verbose"
  | help => "help"
  | version => "version"

/-- The letter of a switch. -/
def letter : Switch → Char
  | verbose => 'v'
  | help => 'h'
  | version => 'V'

/-- The switch as it is shown; dots stand behind the one that counts. -/
def usage : Switch → String
  | verbose => "--verbose..."
  | s => "--" ++ s.name

end Switch

namespace Opt

/-- The long name of an option. -/
def name : Opt → String
  | value o => o.name
  | switch s => s.name

/-- The letter of an option, if it has one. -/
def letter? : Opt → Option Char
  | value .port => some 'p'
  | value _ => none
  | switch s => some s.letter

end Opt

namespace Command

/-- The options of a command, in the order in which they are shown. -/
def options : Command → List Opt
  | serve => [.value .port, .value .title, .switch .verbose, .switch .help, .switch .version]
  | link => [.value .host, .value .flow, .value .status, .switch .verbose, .switch .help]

/-- The option of a command with a long name. -/
def ofName? (c : Command) (name : Octets) : Option Opt :=
  c.options.find? fun o => Octets.ofString o.name = name

/-- The option of a command with a letter. -/
def ofLetter? (c : Command) (letter : Char) : Option Opt :=
  c.options.find? fun o => o.letter? = some letter

/-- The word for the command that prints a link. -/
def linkWord : String := "link"

/-- The word that asks for help. -/
def helpWord : String := "help"

/-- The words that a command line without a command can go on with. -/
def isCommandWord (a : Octets) : Bool :=
  a = Octets.ofString linkWord || a = Octets.ofString helpWord

end Command

end ResultPages
