/-
Where the port and the title come from.

What is given on the command line holds, whatever the variable for it is set to: neither what is
read nor what the program does then depends on that variable.  If an option is not given, its
variable is read, and if that is not set either, there is a default (`parse_precedence`).  A
command line with a link is no different.
-/
import ResultPages.Program
import ResultPages.Proofs.CommandLine.Given
import ResultPages.Proofs.CommandLine.Reading

namespace ResultPages

namespace Command

/-- An option is given among the arguments of the main command. -/
def IsGiven (o : ValueOption) (args : List Octets) : Prop :=
  ∃ is rest v, Command.serve.Line is rest args ∧ Item.option o v ∈ is

/-- Whether an option is given can be told from what the arguments have given in the end. -/
lemma isGiven_iff {o : ValueOption} {is : List Item} {rest : Option (List Octets)}
    {args : List Octets} (h : Command.serve.Line is rest args) {g : Given}
    (hg : Given.nothing.takeItems is = .ok g) : IsGiven o args ↔ g.has o = true := by
  have hnothing : Given.nothing.has o ≠ true := by cases o <;> decide
  constructor
  · rintro ⟨is', rest', v, h', hmem⟩
    have hg' : Given.nothing.takeItems is' = .ok g := by
      rw [← Scan.settle_run h', Scan.settle_run h, hg]
    exact (Given.has_of_takeItems hg' o).2 (Or.inr ⟨v, hmem⟩)
  · intro hhas
    obtain ⟨v, hmem⟩ := ((Given.has_of_takeItems hg o).1 hhas).resolve_left hnothing
    exact ⟨is, rest, v, h, hmem⟩

end Command

namespace Program

/-- Apart from the command line three variables are read. -/
lemma execute_congr {env env' : Environment}
    (h : ∀ n ∈ [logVariable, Export.endpointVariable, Export.instanceVariable],
      env'.get? n = env.get? n) : execute env' = execute env := by
  simp only [List.forall_mem_cons] at h
  obtain ⟨hlog, hendpoint, hinstance, -⟩ := h
  funext i
  simp only [execute, exportFailure?, Export.ofEnvironment, Export.failure?, Environment.text?,
    hlog, hendpoint, hinstance]

end Program

namespace Invocation

variable {env env' : Environment} {args : List Octets} {i : Invocation}

/-- The source of a setting tells how it was found: on the command line, and then the variable
has no part in what the program does; in the variable, where it is spelled by some text; or
nowhere. -/
structure IsFoundIn {α : Type} (x : Setting α) (env : Environment) (args : List Octets)
    (o : ValueOption) (name : String) (Spells : String → α → Prop) (default : α) : Prop where
  of_commandLine : x.source = .commandLine → Command.IsGiven o args ∧
    ∀ env' : Environment, Environment.AgreesOff name env env' →
      parse env' args = parse env args ∧ Program.run env' args = Program.run env args
  of_environment : x.source = .environment → ¬ Command.IsGiven o args ∧
    ∃ s, env.get? name = some (.ofString s) ∧ Spells s x.value
  of_default : x.source = .default →
    ¬ Command.IsGiven o args ∧ env.get? name = none ∧ x.value = default

/-- What a command line asks for and what the program does then are alike in environments in
which the command line is read alike. -/
lemma run_congr {name : String} (h : Environment.AgreesOff name env env')
    (hname : name = portVariable ∨ name = titleVariable)
    (hparse : parse env' args = parse env args) :
    Program.run env' args = Program.run env args := by
  have hexecute : Program.execute env' = Program.execute env := by
    refine Program.execute_congr ?_
    intro n hn
    -- the variables that are read later are other ones
    refine h n ?_
    rintro rfl
    obtain rfl | rfl := hname <;> revert hn <;> decide
  rw [Program.run, Program.run, hparse, hexecute]

/-- A setting that has been found with `resolve`. -/
lemma isFoundIn_of_resolve {α : Type} {x : Setting α} {given : Option α} {o : ValueOption}
    {name : String} {read : Octets → Except Complaint α} {Spells : String → α → Prop}
    {default : α} (h : Setting.resolve given (env.get? name) read default = .ok x)
    (hgiven : Command.IsGiven o args ↔ given.isSome = true)
    (hname : name = portVariable ∨ name = titleVariable)
    (hread : ∀ v y, read v = .ok y → ∃ s, v = .ofString s ∧ Spells s y)
    (hparse : given.isSome = true → ∀ env' : Environment, Environment.AgreesOff name env env' →
      parse env' args = parse env args) :
    IsFoundIn x env args o name Spells default := by
  have hfound := of_resolve h
  obtain ⟨y, source⟩ := x
  cases source with
  | commandLine =>
      have hsome : given.isSome = true := by
        rw [hfound]
        rfl
      refine ⟨fun _ => ⟨hgiven.2 hsome, ?_⟩, nofun, nofun⟩
      intro env' hagree
      have hsame := hparse hsome env' hagree
      exact ⟨hsame, run_congr hagree hname hsame⟩
  | environment =>
      obtain ⟨hnone, v, hv, hy⟩ := hfound
      obtain ⟨s, rfl, hs⟩ := hread v _ hy
      refine ⟨nofun, fun _ => ⟨?_, s, hv, hs⟩, nofun⟩
      rw [hgiven, hnone]
      exact Bool.false_ne_true
  | default =>
      obtain ⟨hnone, hv, hy⟩ := hfound
      refine ⟨nofun, nofun, fun _ => ⟨?_, hv, hy⟩⟩
      rw [hgiven, hnone]
      exact Bool.false_ne_true

/-- The command line comes before the variable and the variable before the default, for the port
and for the title. -/
theorem parse_precedence (h : parse env args = .ok i) :
    IsFoundIn i.port env args .port portVariable (fun s n => Value.port s = .ok n) 8080 ∧
    IsFoundIn i.title env args .title titleVariable (fun s t => t = s) "Never Expires" := by
  obtain ⟨is, rest, g, inner, hline, hg, -, hi⟩ := exists_of_parse h
  obtain ⟨hport, htitle, -⟩ := settings_of_ofGiven hi
  have hgiven : ∀ o, Command.IsGiven o args ↔ g.has o = true := fun o =>
    Command.isGiven_iff hline hg
  constructor
  · refine isFoundIn_of_resolve hport (hgiven .port) (Or.inl rfl) ?_ ?_
    · intro v n hn
      exact readValue_eq_ok_iff.1 hn
    · intro hsome env' hagree
      refine parse_congr hline hg ?_ (fun _ => hagree _ (by decide)) (hagree _ (by decide))
      intro hnone
      rw [hnone] at hsome
      cases hsome
  · refine isFoundIn_of_resolve htitle (hgiven .title) (Or.inr rfl) ?_ ?_
    · intro v t ht
      exact ⟨t, readText_eq_ok_iff.1 ht, rfl⟩
    · intro hsome env' hagree
      refine parse_congr hline hg (fun _ => hagree _ (by decide)) ?_ (hagree _ (by decide))
      intro hnone
      rw [hnone] at hsome
      cases hsome

/-- A port given on the command line with a variable that is no text, next to a title from its
variable, in front of a link. -/
theorem parse_port_before_variable :
    let env : Environment := [(portVariable, [0xFF]), (titleVariable, .ofString "Acme")]
    let args := ["-p3000", "link", "--host=id.example.com", "--flow=confirmation",
      "--status=success"].map Octets.ofString
    parse env args = .ok ⟨⟨3000, .commandLine⟩, ⟨"Acme", .environment⟩, ⟨0, .default⟩,
      .link "id.example.com" .confirmation "success"⟩ ∧
    IsFoundIn ⟨3000, .commandLine⟩ env args .port portVariable
      (fun s n => Value.port s = .ok n) 8080 ∧
    IsFoundIn ⟨"Acme", .environment⟩ env args .title titleVariable (fun s t => t = s)
      "Never Expires" := by
  intro env args
  have hparse : parse env args = .ok ⟨⟨3000, .commandLine⟩, ⟨"Acme", .environment⟩,
      ⟨0, .default⟩, .link "id.example.com" .confirmation "success"⟩ := by decide +kernel
  exact ⟨hparse, parse_precedence hparse⟩

end Invocation

end ResultPages
