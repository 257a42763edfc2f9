/-
What is found for the options of a command line.

An option with a variable and a default is found like a setting, and every other one only on the
command line.  So the main command has a value for each of its options that takes one, and the
command for links has the three that it cannot do without, or they are reported.  Looking for the
options one by one therefore comes to the same as reading the command line in one piece
(`Reading.read_eq`).
-/
import ResultPages.CommandLine.Action
import ResultPages.Proofs.CommandLine.Given
import ResultPages.Proofs.CommandLine.Reading

namespace ResultPages

open Invocation

variable {env : Environment} {g : Given}

/-! ### What is found for the options of a command -/

namespace Opt

/-- An option with a variable and a default is looked for like a setting. -/
lemma find_eq_resolve {α : Type} {o : Opt} {f : α → OptionValue} {given : Option α}
    {name : String} {read : Octets → Except Complaint α} {default : α}
    (hgiven : o.given? g = given.map f)
    (hstandIn : o.standIn? = some ⟨name, fun v => (read v).map f⟩)
    (hdefault : o.default? = some (f default)) :
    o.find env g = (Setting.resolve given (env.get? name) read default).map
      fun x => some ⟨f x.value, x.source⟩ := by
  rw [find, hgiven, hstandIn, hdefault, Option.bind_some]
  cases given with
  | some x => rfl
  | none =>
      simp only [Option.map_none]
      cases env.get? name with
      | none => rfl
      | some v =>
          simp only [Option.map_some, Setting.resolve]
          cases read v <;> rfl

/-- Other options are found only on the command line. -/
lemma find_eq_given {o : Opt} (hstandIn : o.standIn? = none) (hdefault : o.default? = none) :
    o.find env g = .ok ((o.given? g).map (⟨·, .commandLine⟩)) := by
  rw [find, hstandIn, hdefault]
  cases o.given? g <;> rfl

lemma find_port : (value .port).find env g =
    (portSetting env g).map fun x => some ⟨.port x.value, x.source⟩ :=
  find_eq_resolve rfl rfl rfl

lemma find_title : (value .title).find env g =
    (titleSetting env g).map fun x => some ⟨.text x.value, x.source⟩ :=
  find_eq_resolve rfl rfl rfl

lemma find_verbose : (switch .verbose).find env g =
    (verbositySetting env g).map fun x => some ⟨.count x.value, x.source⟩ :=
  find_eq_resolve rfl rfl rfl

/-- A default is what some text stands for, read like the variable of the option. -/
theorem exists_read_default {o : Opt} {v : OptionValue} (h : o.default? = some v) :
    ∃ x s, o.standIn? = some x ∧ x.read (Octets.ofString s) = .ok v := by
  cases o with
  | value o =>
      cases o with
      | port =>
          obtain rfl := Option.some.inj h
          exact ⟨_, "8080", rfl, by decide +kernel⟩
      | title =>
          obtain rfl := Option.some.inj h
          refine ⟨_, defaultTitle, rfl, ?_⟩
          simp only [readText_ofString]
          rfl
      | host | flow | status => cases h
  | switch w =>
      cases w with
      | verbose =>
          obtain rfl := Option.some.inj h
          exact ⟨_, "0", rfl, by decide +kernel⟩
      | help | version => cases h

end Opt

namespace Findings

/-- What is found for the main command. -/
def ofSettings (port : Setting Nat) (title : Setting String) (verbosity : Setting Nat) :
    Findings :=
  ⟨.serve, [(.value .port, ⟨.port port.value, port.source⟩),
    (.value .title, ⟨.text title.value, title.source⟩),
    (.switch .verbose, ⟨.count verbosity.value, verbosity.source⟩)]⟩

/-- What is found for the command that prints a link. -/
def ofLink (host : String) (flow : Flow) (status : String) (verbosity : Setting Nat) :
    Findings :=
  ⟨.link, [(.value .host, ⟨.text host, .commandLine⟩), (.value .flow, ⟨.flow flow, .commandLine⟩),
    (.value .status, ⟨.text status, .commandLine⟩),
    (.switch .verbose, ⟨.count verbosity.value, verbosity.source⟩)]⟩

lemma read_serve (env : Environment) (g : Given) : read env .serve g =
    (portSetting env g).bind fun port => (titleSetting env g).bind fun title =>
      (verbositySetting env g).map (ofSettings port title) := by
  have hhelp : (Opt.switch .help).find env g = .ok none := Opt.find_eq_given rfl rfl
  have hversion : (Opt.switch .version).find env g = .ok none := Opt.find_eq_given rfl rfl
  simp only [read, Command.options, collect, Opt.find_port, Opt.find_title, Opt.find_verbose,
    hhelp, hversion]
  cases portSetting env g with
  | error e => rfl
  | ok port =>
      cases titleSetting env g with
      | error e => rfl
      | ok title => cases verbositySetting env g <;> rfl

lemma read_link (env : Environment) (g : Given) : read env .link g =
    (verbositySetting env g).bind fun verbosity =>
      match g.host, g.flow, g.status with
      | some host, some flow, some status => .ok (ofLink host flow status verbosity)
      | _, _, _ => .error (.missing ([.host, .flow, .status].filter fun o => !g.has o)) := by
  have hhelp : (Opt.switch .help).find env g = .ok none := Opt.find_eq_given rfl rfl
  have hhost : (Opt.value .host).find env g = .ok _ := Opt.find_eq_given rfl rfl
  have hflow : (Opt.value .flow).find env g = .ok _ := Opt.find_eq_given rfl rfl
  have hstatus : (Opt.value .status).find env g = .ok _ := Opt.find_eq_given rfl rfl
  simp only [read, Command.options, collect, Opt.find_verbose, hhelp, hhost, hflow, hstatus]
  obtain ⟨port, title, host, flow, status, verbosity⟩ := g
  cases verbositySetting env ⟨port, title, host, flow, status, verbosity⟩ with
  | error e => cases host <;> cases flow <;> cases status <;> rfl
  | ok v => cases host <;> cases flow <;> cases status <;> rfl

end Findings

/-! ### Readings and invocations -/

namespace Reading

/-- The settings of an invocation, by option. -/
def ofInvocation (i : Invocation) : Reading :=
  ⟨.ofSettings i.port i.title i.verbosity,
    match i.task with
    | .serve => none
    | .link host flow status => some (.ofLink host flow status i.verbosity)⟩

/-- The arguments behind the word `link` are read alike. -/
lemma readLink_cases (env : Environment) (args : List Octets) :
    (∃ e, Invocation.readLink env args = .error e ∧ readLink env args = .error e) ∨
    ∃ host flow status verbosity,
      Invocation.readLink env args = .ok (.link host flow status, verbosity) ∧
      readLink env args = .ok (.ofLink host flow status verbosity) := by
  have hlink : readLink env args =
      ((Scan.start.run .link args).bind (·.1.settle)).bind (Findings.read env .link) := by
    rw [readLink]
    cases Scan.start.run .link args with
    | error e => rfl
    | ok p => rfl
  rw [hlink, Invocation.readLink_eq]
  cases (Scan.start.run .link args).bind (·.1.settle) with
  | error e => exact Or.inl ⟨e, rfl, rfl⟩
  | ok g =>
      simp only [Except.bind, Findings.read_link, linkOfGiven]
      cases verbositySetting env g with
      | error e => exact Or.inl ⟨e, rfl, rfl⟩
      | ok verbosity =>
          obtain ⟨port, title, host, flow, status, count⟩ := g
          rcases host with _ | host
          · exact Or.inl ⟨_, rfl, rfl⟩
          rcases flow with _ | flow
          · exact Or.inl ⟨_, rfl, rfl⟩
          rcases status with _ | status
          · exact Or.inl ⟨_, rfl, rfl⟩
          exact Or.inr ⟨host, flow, status, verbosity, rfl, rfl⟩

lemma shareVerbosity_eq (port : Setting Nat) (title : Setting String) (host : String)
    (flow : Flow) (status : String) (outer inner : Setting Nat) :
    shareVerbosity (.ofSettings port title outer) (.ofLink host flow status inner) =
      ofInvocation ⟨port, title, outer.stronger inner, .link host flow status⟩ := by
  have hstronger : Setting.stronger (⟨OptionValue.count outer.value, outer.source⟩ : Setting _)
      ⟨.count inner.value, inner.source⟩ =
      ⟨.count (outer.stronger inner).value, (outer.stronger inner).source⟩ := by
    simp only [Setting.stronger]
    split <;> rfl
  have hshare : shareVerbosity (.ofSettings port title outer) (.ofLink host flow status inner) =
      ⟨(Findings.ofSettings port title outer).replace (.switch .verbose)
          (Setting.stronger ⟨.count outer.value, outer.source⟩ ⟨.count inner.value, inner.source⟩),
        some ((Findings.ofLink host flow status inner).replace (.switch .verbose)
          (Setting.stronger ⟨.count outer.value, outer.source⟩
            ⟨.count inner.value, inner.source⟩))⟩ := rfl
  rw [hshare, hstronger]
  rfl

/-- The last stage, with what has been found behind the word `link`. -/
lemma map_read_serve (inner : Option (Task × Setting Nat)) (finish : Findings → Reading)
    (h : ∀ port title outer, finish (.ofSettings port title outer) = ofInvocation
      (match inner with
        | none => ⟨port, title, outer, .serve⟩
        | some p => ⟨port, title, outer.stronger p.2, p.1⟩)) :
    (Findings.read env .serve g).map finish = (ofGiven env g inner).map ofInvocation := by
  rw [Findings.read_serve]
  cases hport : portSetting env g with
  | error e => simp only [ofGiven, hport, bind, Except.bind, Except.map]
  | ok port =>
      cases htitle : titleSetting env g with
      | error e => simp only [ofGiven, hport, htitle, bind, Except.bind, Except.map]
      | ok title =>
          rw [ofGiven_eq hport htitle]
          cases verbositySetting env g with
          | error e => rfl
          | ok outer => exact congrArg Except.ok (h port title outer)

/-- Looking for the options one by one comes to the same as reading the command line at once. -/
theorem read_eq (env : Environment) (args : List Octets) :
    read env args = (parse env args).map ofInvocation := by
  rw [parse_eq, read]
  cases Scan.start.run .serve args with
  | error e => rfl
  | ok p =>
      obtain ⟨t, rest⟩ := p
      cases rest with
      | none =>
          change t.settle.bind _ = (t.settle.bind _).map _
          cases t.settle with
          | error e => rfl
          | ok g => exact map_read_serve none (⟨·, none⟩) fun _ _ _ => rfl
      | some rest =>
          change ((readLink env rest).map some).bind _ =
            (((Invocation.readLink env rest).map some).bind _).map _
          rcases readLink_cases env rest with ⟨e, hinvocation, hread⟩ |
            ⟨host, flow, status, verbosity, hinvocation, hread⟩
          · rw [hinvocation, hread]
            rfl
          · rw [hinvocation, hread]
            change t.settle.bind _ = (t.settle.bind _).map _
            cases t.settle with
            | error e => rfl
            | ok g =>
                exact map_read_serve (some (.link host flow status, verbosity))
                  (shareVerbosity · (.ofLink host flow status verbosity)) fun port title outer =>
                    shareVerbosity_eq port title host flow status outer verbosity

end Reading

end ResultPages
