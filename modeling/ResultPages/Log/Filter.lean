/-
Which lines the log shows.

Without instructions the log runs at one level.  A variable can hold instructions, separated
by commas: a level for everything, or a target with a level for what is logged there.  Of the
instructions whose target begins the target of a line, the longest decides, and of two for
the same target the last.  Instructions that name a span do not concern lines outside it.

An instruction that cannot be read is left out, with a note.
-/
import ResultPages.Log.Level
import ResultPages.Text.Blank
import ResultPages.Text.Number
import ResultPages.Text.Pieces

namespace ResultPages

/-- What is wrong with an instruction. -/
inductive FilterError where
  | notADirective
  | notALevel
deriving DecidableEq, Repr

/-- The wording of an error. -/
def FilterError.message : FilterError → String
  | notADirective => "invalid filter directive"
  | notALevel =>
    "error parsing level filter: expected one of \"off\", \"error\", \"warn\", \"info\", " ++
      "\"debug\", \"trace\", or a number 0-5"

/-- The level up to which lines are shown: `none` shows nothing. -/
abbrev Threshold : Type := Option LogLevel

/-- An instruction: up to which level to show the lines of a target.  One for a span does not
concern lines outside it. -/
structure Directive where
  /-- How the targets begin that it concerns. -/
  target : List Char
  /-- Whether it concerns a span only. -/
  forSpan : Bool
  /-- Up to which level lines are shown. -/
  threshold : Threshold
deriving DecidableEq, Repr

namespace Directive

/-- The thresholds by number. -/
def thresholds : List Threshold :=
  [none, some .error, some .warn, some .info, some .debug, some .trace]

/-- A threshold by number or by name. -/
def threshold? (cs : List Char) : Option Threshold :=
  match (Number.natural 0xFFFFFFFFFFFFFFFF cs).toOption.bind (thresholds[·]?) with
  | some t => some t
  | none =>
    let word := (String.ofList cs).toLower
    if word = "off" then some none
    else if word = "" then some (some .error)
    else (LogLevel.all.find? (·.name = word)).map some

/-- The threshold behind an equals sign; nothing there shows everything. -/
def assigned (cs : List Char) : Except FilterError Threshold :=
  if cs = [] then .ok (some .trace)
  else
    match threshold? cs with
    | some t => .ok t
    | none => .error .notALevel

/-- An instruction for a span, given what follows the bracket: a name, fields in braces, and
a threshold behind the closing bracket. -/
def ofSpan (target cs : List Char) : Except FilterError Directive :=
  let name := cs.takeWhile fun c => c ≠ ']' ∧ c ≠ '\x7b'
  let rest := match cs.drop name.length with
    | '\x7b' :: fields =>
      let inner := fields.takeWhile (· ≠ '\x7d')
      if inner = [] then [] else fields.drop (inner.length + 1)
    | rest => rest
  match rest with
  | [']'] => .ok ⟨target, true, some .trace⟩
  | ']' :: '=' :: level => (assigned level).map fun t => ⟨target, true, t⟩
  | _ => .error .notADirective

/-- Whether a character can begin an instruction. -/
def canBegin (c : Char) : Bool :=
  c.isAlphanum || c == '-' || c == ':' || c == '_' || 0x80 ≤ c.toNat

/-- Reads an instruction. -/
def parse (text : List Char) : Except FilterError Directive :=
  let cs := trim text
  match cs with
  | [] => .error .notADirective
  | '[' :: rest => ofSpan [] rest
  | c :: _ =>
    if !canBegin c then .error .notADirective
    else
      let word := cs.takeWhile fun c => c ≠ '=' ∧ c ≠ '['
      match cs.drop word.length with
      | '=' :: level => (assigned level).map fun t => ⟨word, false, t⟩
      | '[' :: rest => ofSpan word rest
      | _ =>
        match threshold? word with
        | some t => .ok ⟨[], false, t⟩
        | none => .ok ⟨word, false, some .trace⟩

end Directive

/-- The instructions of a log. -/
structure LogFilter where
  /-- The level without instructions. -/
  default : LogLevel
  /-- The instructions that could be read. -/
  directives : List Directive
deriving DecidableEq, Repr

namespace LogFilter

/-- The instructions in a text, as they stand. -/
def instructions (text : String) : List (List Char) :=
  (pieces ',' text.toList).filter (· ≠ [])

/-- The filter for a level and the instructions in a text. -/
def ofText (default : LogLevel) (text : String) : LogFilter :=
  ⟨default, (instructions text).filterMap fun cs => (Directive.parse cs).toOption⟩

/-- The notes about instructions that cannot be read. -/
def notes (text : String) : List String :=
  (instructions text).filterMap fun cs =>
    match Directive.parse cs with
    | .ok _ => none
    | .error e => some ("ignoring \x60" ++ String.ofList cs ++ "\x60: " ++ e.message)

/-- The instruction that decides about the lines of a target. -/
def deciding? (f : LogFilter) (target : List Char) : Option Directive :=
  (f.directives.filter fun d => !d.forSpan && d.target.isPrefixOf target).foldl
    (fun best d =>
      match best with
      | some b => if d.target.length < b.target.length then some b else some d
      | none => some d) none

/-- Whether a line of a target is shown. -/
def shows (f : LogFilter) (target : String) (line : LogLevel) : Bool :=
  if f.directives = [] then f.default.shows line
  else
    match f.deciding? target.toList with
    | some d => d.threshold.any (·.shows line)
    | none => false

end LogFilter

end ResultPages
