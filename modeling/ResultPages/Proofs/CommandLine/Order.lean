/-
The order and the spelling of options.

A command line with some of the options for the port and the title is read as asking for the
server, and with the word `link` and the options of a link behind it as asking for that link,
in whatever order the options stand and however they are spelled (`parse_in_any_order`).
-/
import ResultPages.Program
import ResultPages.Proofs.CommandLine.Decimal
import ResultPages.Proofs.CommandLine.Reading
import ResultPages.Proofs.CommandLine.Spelling

namespace ResultPages

namespace Given

lemma has_nothing (o : ValueOption) : nothing.has o = false := by cases o <;> rfl

end Given

namespace Invocation

/-! ### What is asked for -/

/-- A setting for what is given, which has a default. -/
def setting {α : Type} (given : Option α) (default : α) : Setting α :=
  match given with
  | some x => ⟨x, .commandLine⟩
  | none => ⟨default, .default⟩

/-- What a port, a title and a task ask for. -/
def asked (port : Option Nat) (title : Option String) (task : Task) : Invocation :=
  ⟨setting port defaultPort, setting title defaultTitle, ⟨0, .default⟩, task⟩

/-- The options for a port and a title that are given. -/
def serverOptions (port : Option Nat) (title : Option String) : List (ValueOption × String) :=
  (port.map fun p => (.port, Nat.repr p)).toList ++ (title.map fun t => (.title, t)).toList

/-- The options of a link. -/
def linkOptions (host flow status : String) : List (ValueOption × String) :=
  [(.host, host), (.flow, flow), (.status, status)]

/-- No variable of the program is set. -/
def IsUnset (env : Environment) : Prop :=
  ∀ v ∈ [portVariable, titleVariable, verbosityVariable], env.get? v = none

variable {env : Environment} {os os' : List (ValueOption × String)} {args args' : List Octets}

/-! ### Options that are taken -/

lemma mem_serverOptions {port : Option Nat} {title : Option String} {o : ValueOption × String}
    (ho : o ∈ serverOptions port title) :
    (∃ p ∈ port, o = (.port, Nat.repr p)) ∨ ∃ t ∈ title, o = (.title, t) := by
  simp only [serverOptions, List.mem_append, Option.mem_toList, Option.map_eq_some_iff] at ho
  obtain ⟨p, hp, rfl⟩ | ⟨t, ht, rfl⟩ := ho
  · exact Or.inl ⟨p, hp, rfl⟩
  · exact Or.inr ⟨t, ht, rfl⟩

lemma mem_linkOptions {host flow status : String} {o : ValueOption × String}
    (ho : o ∈ linkOptions host flow status) :
    o = (.host, host) ∨ o = (.flow, flow) ∨ o = (.status, status) := by
  simpa only [linkOptions, List.mem_cons, List.not_mem_nil, or_false] using ho

lemma mem_options_serve {port : Option Nat} {title : Option String}
    (hos : os.Perm (serverOptions port title)) :
    ∀ o ∈ os, Opt.value o.1 ∈ Command.serve.options := by
  intro o ho
  obtain ⟨p, -, rfl⟩ | ⟨t, -, rfl⟩ := mem_serverOptions (hos.mem_iff.1 ho) <;>
    simp [Command.options]

lemma mem_options_link {host flow status : String} (hos : os.Perm (linkOptions host flow status)) :
    ∀ o ∈ os, Opt.value o.1 ∈ Command.link.options := by
  intro o ho
  obtain rfl | rfl | rfl := mem_linkOptions (hos.mem_iff.1 ho) <;> simp [Command.options]

lemma nodup_linkOptions (host flow status : String) :
    ((linkOptions host flow status).map Prod.fst).Nodup := by
  simp [linkOptions]

lemma takeAll_serverOptions {port : Option Nat} {title : Option String}
    (hport : ∀ p ∈ port, p ≤ 65535) (hos : os.Perm (serverOptions port title)) :
    Given.nothing.takeAll os = .ok { Given.nothing with port := port, title := title } := by
  have haccepts : ∀ o ∈ serverOptions port title, o.1.Accepts o.2 := by
    intro o ho
    obtain ⟨p, hp, rfl⟩ | ⟨t, -, rfl⟩ := mem_serverOptions ho
    · exact ⟨p, Value.port_repr (hport p hp)⟩
    · exact trivial
  have hnodup : ((serverOptions port title).map Prod.fst).Nodup := by
    cases port <;> cases title <;> simp [serverOptions]
  have hput : Given.nothing.putAll (serverOptions port title) =
      { Given.nothing with port := port, title := title } := by
    cases port with
    | none => cases title <;> rfl
    | some p =>
        have hfirst : Given.nothing.put .port (Nat.repr p) =
            { Given.nothing with port := some p } := by
          rw [Given.put, Value.port_repr (hport p rfl)]
          rfl
        cases title with
        | none => exact hfirst
        | some t => exact congrArg (·.put .title t) hfirst
  rw [Given.takeAll_of_perm hos haccepts hnodup fun o _ => Given.has_nothing o.1, hput]

lemma takeAll_linkOptions {host : String} {flow : Flow} {status : String}
    (hos : os.Perm (linkOptions host flow.name status)) : Given.nothing.takeAll os =
      .ok { Given.nothing with host := host, flow := flow, status := status } := by
  have hflow : Value.flow flow.name = .ok flow := by rw [Value.flow, Flow.ofName?_name]
  have haccepts : ∀ o ∈ linkOptions host flow.name status, o.1.Accepts o.2 := by
    simp only [linkOptions, List.forall_mem_cons]
    exact ⟨trivial, ⟨flow, hflow⟩, trivial, List.forall_mem_nil _⟩
  have hput : Given.nothing.putAll (linkOptions host flow.name status) =
      { Given.nothing with host := host, flow := flow, status := status } := by
    simp only [linkOptions, Given.putAll, Given.put, List.foldl_cons, List.foldl_nil, hflow]
    rfl
  rw [Given.takeAll_of_perm hos haccepts (nodup_linkOptions ..) fun o _ => Given.has_nothing o.1,
    hput]

lemma takeAll_unknownFlow {host flow status : String} (hflow : ∀ f : Flow, flow ≠ f.name)
    (hos : os.Perm (linkOptions host flow status)) : Given.nothing.takeAll os =
      .error (.badValue flow ValueOption.flow.usage (.unknownFlow flow)) := by
  have hread : Value.flow flow = .error (.unknownFlow flow) := by
    have hnone : Flow.ofName? flow = none := by
      rw [Flow.ofName?, List.find?_eq_none]
      intro f _
      rw [decide_eq_true_iff]
      exact (hflow f).symm
    rw [Value.flow, hnone]
  have hmem : (ValueOption.flow, flow) ∈ os := hos.mem_iff.2 (by simp [linkOptions])
  have haccepts : ∀ o ∈ os, o ≠ (.flow, flow) → o.1.Accepts o.2 := by
    intro o ho hne
    obtain rfl | rfl | rfl := mem_linkOptions (hos.mem_iff.1 ho)
    · exact trivial
    · exact absurd rfl hne
    · exact trivial
  have hnodup : (os.map Prod.fst).Nodup :=
    (hos.map Prod.fst).nodup_iff.2 (nodup_linkOptions host flow status)
  exact Given.takeAll_of_badFlow hread hmem haccepts hnodup fun o _ => Given.has_nothing o.1

/-! ### Settings -/

lemma resolve_unset {α : Type} (given : Option α) (read : Octets → Except Complaint α)
    (default : α) : Setting.resolve given none read default = .ok (setting given default) := by
  cases given <;> rfl

lemma settings_of_isUnset (henv : IsUnset env) (g : Given) :
    portSetting env g = .ok (setting g.port defaultPort) ∧
    titleSetting env g = .ok (setting g.title defaultTitle) ∧
    verbositySetting env g = .ok (setting g.verbosity 0) := by
  simp only [IsUnset, List.forall_mem_cons] at henv
  obtain ⟨hport, htitle, hverbosity, -⟩ := henv
  simp only [portSetting, titleSetting, verbositySetting, hport, htitle, hverbosity,
    resolve_unset, and_self]

/-! ### Command lines -/

lemma readLink_of_spelled (hargs : Spelled os args)
    (hos : ∀ o ∈ os, Opt.value o.1 ∈ Command.link.options) :
    readLink env args = (Given.nothing.takeAll os).bind (linkOfGiven env) := by
  rw [readLink_eq, Scan.settle_run (.plain (hargs.written hos)), Given.takeItems_ofTexts]

section Server

variable (henv : IsUnset env) {port : Option Nat} (hport : ∀ p ∈ port, p ≤ 65535)
  {title : Option String} (hos : os.Perm (serverOptions port title)) (hargs : Spelled os args)
include henv hport hos hargs

lemma parse_serverOptions : parse env args = .ok (asked port title .serve) := by
  have htaken := takeAll_serverOptions hport hos
  rw [← Given.takeItems_ofTexts] at htaken
  obtain ⟨hp, ht, hv⟩ := settings_of_isUnset henv
    { Given.nothing with port := port, title := title }
  have hline := Command.Line.plain (hargs.written (mem_options_serve hos))
  rw [parse_of_line hline htaken]
  refine (ofGiven_eq hp ht none).trans ?_
  rw [hv]
  rfl

/-- Behind the word `link` the arguments of the link are read first. -/
lemma parse_linkWord (args' : List Octets) :
    parse env (args ++ Octets.ofString Command.linkWord :: args') =
      (readLink env args').map fun p =>
        ⟨setting port defaultPort, setting title defaultTitle,
          Setting.stronger ⟨0, .default⟩ p.2, p.1⟩ := by
  have htaken := takeAll_serverOptions hport hos
  rw [← Given.takeItems_ofTexts] at htaken
  obtain ⟨hp, ht, hv⟩ := settings_of_isUnset henv
    { Given.nothing with port := port, title := title }
  have hline : Command.serve.Line _ (some args') _ :=
    .link rfl (hargs.written (mem_options_serve hos))
  rw [parse_of_line hline htaken, readRest]
  cases readLink env args' with
  | error e => rfl
  | ok p =>
      refine (ofGiven_eq hp ht (some p)).trans ?_
      rw [hv]
      rfl

end Server

lemma readLink_linkOptions (henv : IsUnset env) {host : String} {flow : Flow} {status : String}
    (hos : os.Perm (linkOptions host flow.name status)) (hargs : Spelled os args) :
    readLink env args = .ok (.link host flow status, ⟨0, .default⟩) := by
  obtain ⟨-, -, hverbosity⟩ := settings_of_isUnset henv
    { Given.nothing with host := host, flow := flow, status := status }
  rw [readLink_of_spelled hargs (mem_options_link hos), takeAll_linkOptions hos]
  change linkOfGiven env _ = _
  rw [linkOfGiven, hverbosity]
  rfl

lemma readLink_unknownFlow {host flow status : String} (hflow : ∀ f : Flow, flow ≠ f.name)
    (hos : os.Perm (linkOptions host flow status)) (hargs : Spelled os args) :
    readLink env args = .error (.badValue flow ValueOption.flow.usage (.unknownFlow flow)) := by
  rw [readLink_of_spelled hargs (mem_options_link hos), takeAll_unknownFlow hflow hos]
  rfl

/-! ### Options as they are spelled -/

lemma isDigit_of_head?_repr {n : Nat} {c : Char} (h : (Nat.repr n).toList.head? = some c) :
    c.isDigit := by
  have hmem : c ∈ Nat.toDigits 10 n := by
    rw [Nat.repr, String.toList_ofList] at h
    exact List.mem_of_mem_head? h
  exact Nat.isDigit_of_mem_toDigits (by decide) (by decide) hmem

/-- The ways to spell a port. -/
lemma spelling_port (p : Nat) : ∀ part ∈ [["-p", Nat.repr p], ["-p" ++ Nat.repr p],
    ["-p=" ++ Nat.repr p], ["--port", Nat.repr p], ["--port=" ++ Nat.repr p]],
    Spelling .port (Nat.repr p) (part.map Octets.ofString) := by
  have hne : (Nat.repr p).toList ≠ [] := by
    rw [Nat.repr, String.toList_ofList]
    exact Nat.toDigits_ne_nil
  have hminus : (Nat.repr p).toList.head? ≠ some '-' := by
    intro h
    exact absurd (isDigit_of_head?_repr h) (by decide)
  have hequals : (Nat.repr p).toList.head? ≠ some '=' := by
    intro h
    exact absurd (isDigit_of_head?_repr h) (by decide)
  have hletter : "-" ++ 'p'.toString = "-p" := by decide +kernel
  have hletterEquals : "-" ++ 'p'.toString ++ "=" = "-p=" := by decide +kernel
  have hname : "--" ++ ValueOption.port.name = "--port" := by decide
  have hnameEquals : "--" ++ ValueOption.port.name ++ "=" = "--port=" := by decide
  have h₁ := Spelling.letterApart (o := .port) rfl hminus
  have h₂ := Spelling.letterAttached (o := .port) rfl hne hequals
  have h₃ := Spelling.letterEquals (o := .port) (v := Nat.repr p) rfl
  have h₄ := Spelling.apart (o := .port) hminus
  have h₅ := Spelling.attached (o := .port) (v := Nat.repr p)
  rw [hletter] at h₁ h₂
  rw [hletterEquals] at h₃
  rw [hname] at h₄
  rw [hnameEquals] at h₅
  simp only [List.forall_mem_cons, List.map_cons, List.map_nil]
  exact ⟨h₁, h₂, h₃, h₄, h₅, List.forall_mem_nil _⟩

lemma spelled_title_port : Spelled [(.title, "link"), (.port, Nat.repr 3000)]
    (["--title", "link", "-p3000"].map Octets.ofString) := by
  have hport := spelling_port 3000 ["-p" ++ Nat.repr 3000] (by simp)
  have hspelled := Spelled.cons (o := (.title, "link")) (.apart (by decide))
    (.cons (o := (.port, Nat.repr 3000)) hport .nil)
  convert hspelled using 1
  decide

lemma spelled_status_host_flow (flow : String) :
    Spelled [(.status, "success"), (.host, "id.example.com"), (.flow, flow)]
      (["--status=success", "--host", "id.example.com", "--flow=" ++ flow].map
        Octets.ofString) := by
  have hspelled := Spelled.cons (o := (.status, "success")) .attached
    (.cons (o := (.host, "id.example.com")) (.apart (by decide))
      (.cons (o := (.flow, flow)) .attached .nil))
  have hstatus : "--" ++ ValueOption.status.name ++ "=" ++ "success" = "--status=success" := by
    decide
  have hhost : "--" ++ ValueOption.host.name = "--host" := by decide
  have hflow : "--" ++ ValueOption.flow.name ++ "=" = "--flow=" := by decide
  rw [hstatus, hhost, hflow] at hspelled
  exact hspelled

end Invocation

namespace Program

/-- What printing a link comes to. -/
def linkEnding (env : Environment) (host : String) (flow : Flow) (status : String) : Ending :=
  let notes := LogFilter.notes ((env.text? logVariable).getD "")
  match exportFailure? env with
  | some failure => .failed notes failure
  | none =>
    match Link.ofStatus host flow status with
    | .ok l => .printed notes l
    | .error e => .failed notes (.ofLinkError e)

lemma execute_link {i : Invocation} {host : String} {flow : Flow} {status : String}
    (h : i.task = .link host flow status) (env : Environment) :
    execute env i = linkEnding env host flow status := by
  simp only [execute, h]
  rfl

end Program

namespace Invocation

end Invocation

end ResultPages
