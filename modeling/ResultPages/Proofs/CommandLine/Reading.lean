/-
Reading a command line by what it spells.

A command line is read in three stages: the arguments are gone over, then what stands behind
the word `link` is read, and then every setting is looked for (`parse_eq`).  Only what the
arguments spell counts in that: `parse_of_line` tells what a command line in the grammar is
read as, and `exists_of_parse` finds the items in a command line that has been read.

Of an environment three variables are read here, and what they hold matters only for settings
that are not given on the command line (`resolve_congr`, `parse_congr`).
-/
import ResultPages.CommandLine.Invocation
import ResultPages.Proofs.CommandLine.Scanned

namespace ResultPages

namespace Scan

variable {c : Command} {is : List Item} {rest : Option (List Octets)} {args : List Octets}

/-- What arguments have given in the end. -/
lemma settle_run (h : c.Line is rest args) :
    (start.run c args).bind (·.1.settle) = Given.nothing.takeItems is := by
  obtain ⟨next, hnext, hrun⟩ := start.exists_run_line h rfl
  rw [hrun]
  refine Eq.trans ?_ hnext.settle_next
  cases next <;> rfl

lemma exists_run_of_takeItems (h : c.Line is rest args) {g : Given}
    (hg : Given.nothing.takeItems is = .ok g) :
    ∃ t : Scan, start.run c args = .ok (t, rest) ∧ t.settle = .ok g := by
  obtain ⟨next, hnext, hrun⟩ := start.exists_run_line h rfl
  have hsettle : next.bind settle = .ok g := hnext.settle_next.trans hg
  obtain ⟨t, rfl, ht⟩ := exists_of_bind_eq_ok hsettle
  exact ⟨t, hrun, ht⟩

/-- A complaint that is never about a value is made while the arguments are gone over. -/
lemma run_eq_error (h : c.Line is rest args) {e : Complaint}
    (he : Given.nothing.takeItems is = .error e)
    (hne : ∀ (g : Given) o v, g.take o v ≠ .error e) : start.run c args = .error e := by
  obtain ⟨next, hnext, hrun⟩ := start.exists_run_line h rfl
  have hsettle : next.bind settle = .error e := hnext.settle_next.trans he
  cases next with
  | error e' =>
      obtain rfl := Except.error.inj hsettle
      exact hrun
  | ok t =>
      obtain ⟨g, _ | ⟨o, v⟩⟩ := t
      · cases hsettle
      · exact absurd hsettle (hne g o v)

lemma exists_line_of_settle {t : Scan} (hrun : start.run c args = .ok (t, rest)) {g : Given}
    (ht : t.settle = .ok g) :
    ∃ is, c.Line is rest args ∧ Given.nothing.takeItems is = .ok g := by
  obtain ⟨is, hline⟩ := exists_line_of_run rfl hrun ht
  refine ⟨is, hline, ?_⟩
  rw [← settle_run hline, hrun]
  exact ht

end Scan

/-- Two environments are alike except for one variable. -/
def Environment.AgreesOff (name : String) (env env' : Environment) : Prop :=
  ∀ n, n ≠ name → env'.get? n = env.get? n

namespace Invocation

variable {env env' : Environment} {is : List Item} {rest : Option (List Octets)}
  {args : List Octets} {g : Given} {i : Invocation}

/-! ### The stages -/

/-- What the arguments behind the word `link` ask for, if that word is there. -/
def readRest (env : Environment) (rest : Option (List Octets)) :
    Except Complaint (Option (Task × Setting Nat)) :=
  match rest with
  | none => .ok none
  | some args => (readLink env args).map some

/-- What is asked for by what has been given to the main command, with what stands behind it. -/
def ofGiven (env : Environment) (g : Given) (inner : Option (Task × Setting Nat)) :
    Except Complaint Invocation := do
  let port ← portSetting env g
  let title ← titleSetting env g
  let outer ← verbositySetting env g
  match inner with
  | none => return ⟨port, title, outer, .serve⟩
  | some (task, verbosity) => return ⟨port, title, outer.stronger verbosity, task⟩

/-- The link that is asked for by what has been given behind the word `link`. -/
def linkOfGiven (env : Environment) (g : Given) : Except Complaint (Task × Setting Nat) :=
  (verbositySetting env g).bind fun verbosity => (linkTask g).map fun task => (task, verbosity)

lemma parse_eq (env : Environment) (args : List Octets) :
    parse env args = (Scan.start.run .serve args).bind fun p =>
      (readRest env p.2).bind fun inner => p.1.settle.bind fun g => ofGiven env g inner := by
  rw [parse]
  cases Scan.start.run .serve args with
  | error e => rfl
  | ok p =>
      obtain ⟨t, _ | rest⟩ := p
      · rfl
      · change (readLink env rest).map some >>= _ = ((readLink env rest).map some).bind _
        cases readLink env rest <;> rfl

/-- What is asked for, once the port and the title have been found. -/
lemma ofGiven_eq {port : Setting Nat} {title : Setting String}
    (hport : portSetting env g = .ok port) (htitle : titleSetting env g = .ok title)
    (inner : Option (Task × Setting Nat)) :
    ofGiven env g inner = (verbositySetting env g).map fun outer =>
      match inner with
      | none => ⟨port, title, outer, .serve⟩
      | some p => ⟨port, title, outer.stronger p.2, p.1⟩ := by
  simp only [ofGiven, hport, htitle, bind, Except.bind]
  cases verbositySetting env g with
  | error e => rfl
  | ok outer => cases inner <;> rfl

lemma readLink_eq (env : Environment) (args : List Octets) :
    readLink env args =
      ((Scan.start.run .link args).bind (·.1.settle)).bind (linkOfGiven env) := by
  rw [readLink]
  cases Scan.start.run .link args with
  | error e => rfl
  | ok p =>
      obtain ⟨t, rest⟩ := p
      change (t.settle >>= fun g => _) = t.settle.bind _
      cases t.settle <;> rfl

/-! ### Command lines in the grammar -/

theorem parse_of_line (h : Command.serve.Line is rest args)
    (hg : Given.nothing.takeItems is = .ok g) :
    parse env args = (readRest env rest).bind (ofGiven env g) := by
  obtain ⟨t, hrun, ht⟩ := Scan.exists_run_of_takeItems h hg
  rw [parse_eq, hrun]
  simp only [Except.bind, ht]

/-- Without the word `link` only the options of the main command count. -/
lemma parse_of_line_none (h : Command.serve.Line is none args) :
    parse env args = (Given.nothing.takeItems is).bind fun g => ofGiven env g none := by
  obtain ⟨next, hnext, hrun⟩ := Scan.start.exists_run_line h rfl
  have hsettle : next.bind Scan.settle = Given.nothing.takeItems is := hnext.settle_next
  rw [parse_eq, hrun, ← hsettle]
  cases next <;> rfl

/-- A command line that has been read is in the grammar, and all its items have been taken. -/
theorem exists_of_parse (h : parse env args = .ok i) :
    ∃ is rest g inner, Command.serve.Line is rest args ∧
      Given.nothing.takeItems is = .ok g ∧ readRest env rest = .ok inner ∧
      ofGiven env g inner = .ok i := by
  rw [parse_eq] at h
  obtain ⟨⟨t, rest⟩, hrun, h⟩ := exists_of_bind_eq_ok h
  obtain ⟨inner, hrest, h⟩ := exists_of_bind_eq_ok h
  obtain ⟨g, ht, h⟩ := exists_of_bind_eq_ok h
  obtain ⟨is, hline, hg⟩ := Scan.exists_line_of_settle hrun ht
  exact ⟨is, rest, g, inner, hline, hg, hrest, h⟩

/-- The settings of a command line that has been read. -/
lemma settings_of_ofGiven {inner : Option (Task × Setting Nat)}
    (h : ofGiven env g inner = .ok i) :
    portSetting env g = .ok i.port ∧ titleSetting env g = .ok i.title ∧
      ∃ outer, verbositySetting env g = .ok outer := by
  obtain ⟨port, hport, h⟩ := exists_of_bind_eq_ok (x := portSetting env g) h
  obtain ⟨title, htitle, h⟩ := exists_of_bind_eq_ok (x := titleSetting env g) h
  obtain ⟨outer, houter, h⟩ := exists_of_bind_eq_ok (x := verbositySetting env g) h
  rw [hport, htitle]
  cases inner with
  | none =>
      obtain rfl := Except.ok.inj h
      exact ⟨rfl, rfl, outer, houter⟩
  | some p =>
      obtain rfl := Except.ok.inj h
      exact ⟨rfl, rfl, outer, houter⟩

/-- What is done and how much the log tells, with what stands behind the word `link`. -/
lemma of_ofGiven {inner : Option (Task × Setting Nat)} (h : ofGiven env g inner = .ok i) :
    ∃ outer, verbositySetting env g = .ok outer ∧
      match inner with
      | none => i.task = .serve ∧ i.verbosity = outer
      | some p => i.task = p.1 ∧ i.verbosity = outer.stronger p.2 := by
  obtain ⟨hport, htitle, outer, houter⟩ := settings_of_ofGiven h
  rw [ofGiven_eq hport htitle, houter] at h
  refine ⟨outer, houter, ?_⟩
  cases inner with
  | none =>
      have hi := Except.ok.inj h
      exact ⟨congrArg task hi.symm, congrArg verbosity hi.symm⟩
  | some p =>
      have hi := Except.ok.inj h
      exact ⟨congrArg task hi.symm, congrArg verbosity hi.symm⟩

/-- All options of a link that is asked for are there. -/
lemma of_linkTask {task : Task} (h : linkTask g = .ok task) : ∃ host flow status,
    g.host = some host ∧ g.flow = some flow ∧ g.status = some status ∧
      task = .link host flow status := by
  rw [linkTask] at h
  split at h
  · next host flow status hhost hflow hstatus =>
    exact ⟨host, flow, status, hhost, hflow, hstatus, (Except.ok.inj h).symm⟩
  · cases h

/-! ### What is read of an environment -/

/-- A setting that has been found, by its source. -/
lemma of_resolve {α : Type} {given : Option α} {fromVariable : Option Octets}
    {read : Octets → Except Complaint α} {default : α} {x : Setting α}
    (h : Setting.resolve given fromVariable read default = .ok x) :
    match x.source with
    | .commandLine => given = some x.value
    | .environment => given = none ∧ ∃ v, fromVariable = some v ∧ read v = .ok x.value
    | .default => given = none ∧ fromVariable = none ∧ x.value = default := by
  cases given with
  | some y =>
      obtain rfl := Except.ok.inj h
      rfl
  | none =>
      cases fromVariable with
      | some v =>
          obtain ⟨y, hy, rfl⟩ := exists_of_map_eq_ok h
          exact ⟨rfl, v, rfl, hy⟩
      | none =>
          obtain rfl := Except.ok.inj h
          exact ⟨rfl, rfl, rfl⟩

/-- The variable is not looked at if the option is given. -/
lemma resolve_congr {α : Type} {given : Option α} {v v' : Option Octets}
    (h : given = none → v' = v) (read : Octets → Except Complaint α) (default : α) :
    Setting.resolve given v' read default = Setting.resolve given v read default := by
  cases given with
  | some x => rfl
  | none => rw [h rfl]

lemma readRest_congr (h : env'.get? verbosityVariable = env.get? verbosityVariable)
    (rest : Option (List Octets)) : readRest env' rest = readRest env rest := by
  have hlink : linkOfGiven env' = linkOfGiven env := by
    funext g
    simp only [linkOfGiven, verbositySetting, h]
  cases rest with
  | none => rfl
  | some args => simp only [readRest, readLink_eq, hlink]

/-- A command line is read alike if the variables are alike that stand in for options which are
not given. -/
theorem parse_congr (h : Command.serve.Line is rest args)
    (hg : Given.nothing.takeItems is = .ok g)
    (hport : g.port = none → env'.get? portVariable = env.get? portVariable)
    (htitle : g.title = none → env'.get? titleVariable = env.get? titleVariable)
    (hverbosity : env'.get? verbosityVariable = env.get? verbosityVariable) :
    parse env' args = parse env args := by
  have hgiven : ofGiven env' g = ofGiven env g := by
    funext inner
    simp only [ofGiven, portSetting, titleSetting, verbositySetting, resolve_congr hport,
      resolve_congr htitle, hverbosity]
  rw [parse_of_line h hg, parse_of_line h hg, readRest_congr hverbosity, hgiven]

end Invocation

end ResultPages
