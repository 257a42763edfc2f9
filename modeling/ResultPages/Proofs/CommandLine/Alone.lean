/-
An option alone, given by its argument or by its variable.

One option is given and nothing else: the argument `--name=value` stands alone, or one variable
is set.  Whatever text the value is, it is read alike then: the argument is stored as an option
of the main command (`parse_attach`), the variable stands in for it (`parse_nil`), and both times
the rest has its defaults.  So a port is taken exactly if the text is an integer that is a port,
and every text is a title (`port_and_title_alone`).
-/
import ResultPages.Proofs.CommandLine.Action
import ResultPages.Proofs.CommandLine.Decimal
import ResultPages.Proofs.CommandLine.Spelling

namespace ResultPages

/-- The argument `--name=value`. -/
def ValueOption.attach (o : ValueOption) (s : String) : Octets :=
  .ofString ("--" ++ o.name ++ "=" ++ s)

namespace Environment

lemma get?_singleton_self (name : String) (v : Octets) : get? [(name, v)] name = some v := by
  simp [get?]

lemma get?_singleton_of_ne {name name' : String} (h : name ≠ name') (v : Octets) :
    get? [(name, v)] name' = none := by
  simp [get?, h]

end Environment

namespace Invocation

/-- Without arguments everything is left to the variables. -/
lemma parse_nil (env : Environment) : parse env [] = ofGiven env Given.nothing none :=
  parse_of_line (.plain .nil) rfl

/-- Of an option that stands alone the value is stored. -/
lemma parse_attach (env : Environment) {o : ValueOption}
    (ho : Opt.value o ∈ Command.serve.options) (s : String) :
    parse env [o.attach s] =
      (Given.nothing.store o (.ofString s)).bind fun g => ofGiven env g none := by
  have hspelled : Spelled [(o, s)] [o.attach s] := .cons .attached .nil
  have hwritten := hspelled.written (List.forall_mem_singleton.2 ho)
  have htaken : Given.nothing.takeItems (Item.ofTexts [(o, s)]) =
      Given.nothing.store o (.ofString s) := by
    have hnew : Given.nothing.has o = false := by cases o <;> rfl
    refine (Given.takeItems_singleton _ _).trans ?_
    rw [Given.takeItem_option, Given.take, hnew]
    rfl
  rw [parse_of_line_none (.plain hwritten), htaken]

/-- A port is read, or there is something wrong with its text. -/
lemma readPort_ofString_cases (s : String) :
    (∃ n : Nat, (IsInteger s.toList n ∧ n ≤ 65535) ∧ readPort (.ofString s) = .ok n) ∨
      ∃ cause, readPort (.ofString s) = .error (.badValue s ValueOption.port.usage cause) := by
  rw [readPort, readValue_ofString]
  cases hread : Value.port s with
  | ok n => exact Or.inl ⟨n, Value.port_eq_ok_iff.1 hread, rfl⟩
  | error cause => exact Or.inr ⟨cause, rfl⟩

lemma readPort_ofString_eq_ok_iff {s : String} {n : Nat} :
    readPort (.ofString s) = .ok n ↔ IsInteger s.toList n ∧ n ≤ 65535 := by
  rw [← Value.port_eq_ok_iff, readPort, readValue_ofString]
  cases Value.port s <;> simp [Except.mapError]

end Invocation

namespace Reading

open Invocation

/-- What comes of a command line: the action that is taken from it, or why there is none. -/
def outcome (env : Environment) (args : List Octets) :
    Except Complaint (Except ActionError Action) :=
  (read env args).map action

lemma outcome_port_attach (s : String) : outcome [] [ValueOption.port.attach s] =
    (readPort (.ofString s)).map fun n => .ok (.serve n defaultTitle) := by
  have hstore : Given.nothing.store .port (.ofString s) =
      (readPort (.ofString s)).map fun n => { Given.nothing with port := some n } := rfl
  rw [outcome, read_eq, parse_attach [] (by decide), hstore]
  cases readPort (.ofString s) <;> rfl

lemma outcome_portVariable (s : String) : outcome [(portVariable, .ofString s)] [] =
    (readPort (.ofString s)).map fun n => .ok (.serve n defaultTitle) := by
  rw [outcome, read_eq, parse_nil, ofGiven, portSetting, titleSetting, verbositySetting,
    Environment.get?_singleton_self, Environment.get?_singleton_of_ne (by decide),
    Environment.get?_singleton_of_ne (by decide)]
  simp only [Given.nothing, Setting.resolve]
  cases readPort (.ofString s) <;> rfl

lemma outcome_title_attach (s : String) :
    outcome [] [ValueOption.title.attach s] = .ok (.ok (.serve defaultPort s)) := by
  rw [outcome, read_eq, parse_attach [] (by decide), Given.store, readText_ofString]
  rfl

lemma outcome_titleVariable (s : String) :
    outcome [(titleVariable, .ofString s)] [] = .ok (.ok (.serve defaultPort s)) := by
  rw [outcome, read_eq, parse_nil, ofGiven, portSetting, titleSetting, verbositySetting,
    Environment.get?_singleton_self, Environment.get?_singleton_of_ne (by decide),
    Environment.get?_singleton_of_ne (by decide)]
  simp only [Given.nothing, Setting.resolve, readText_ofString]
  rfl

/-- An option alone is read alike from its argument and from its variable.  A port is the value of
an integer up to 65535, however long it is written, and any other text is refused for its value.
A title is any text. -/
theorem port_and_title_alone (s : String) :
    (∀ n, outcome [] [ValueOption.port.attach s] = .ok (.ok (.serve n defaultTitle)) ↔
      IsInteger s.toList n ∧ n ≤ 65535) ∧
    ((¬ ∃ n : Nat, IsInteger s.toList n ∧ n ≤ 65535) → ∃ cause,
      outcome [] [ValueOption.port.attach s] =
        .error (.badValue s ValueOption.port.usage cause)) ∧
    outcome [(portVariable, .ofString s)] [] = outcome [] [ValueOption.port.attach s] ∧
    outcome [] [ValueOption.title.attach s] = .ok (.ok (.serve defaultPort s)) ∧
    outcome [(titleVariable, .ofString s)] [] = .ok (.ok (.serve defaultPort s)) := by
  refine ⟨fun n => ?taken, fun hnone => ?refused, ?alike, outcome_title_attach s,
    outcome_titleVariable s⟩
  case taken =>
    rw [outcome_port_attach, ← readPort_ofString_eq_ok_iff]
    cases readPort (.ofString s) <;> simp [Except.map]
  case refused =>
    rw [outcome_port_attach]
    rcases readPort_ofString_cases s with ⟨n, hn, -⟩ | ⟨cause, hread⟩
    · exact absurd ⟨n, hn⟩ hnone
    · exact ⟨cause, congrArg (Except.map _) hread⟩
  case alike => rw [outcome_portVariable, outcome_port_attach]

end Reading

end ResultPages
