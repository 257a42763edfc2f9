/-
The action that a command line asks for.

Whatever has been read, an action is taken from it: each option that the action looks up has been
declared, has a value, and the value has the type that is asked for (`Reading.action_of_read`).

Which action that is depends on the arguments alone.  An option is found as what its octets spell,
if it is there once (`Given.receives_of_takeItems`).  The verbosity stays at most five, whether
flags are counted or a variable is read (`Given.isModest_of_takeItems`).
-/
import ResultPages.Proofs.CommandLine.Findings

namespace ResultPages

/-! ### What is given for an option -/

/-- What octets spell as the value of an option. -/
def ValueOption.Reads (o : ValueOption) (v : Octets) (x : OptionValue) : Prop :=
  match o with
  | port => ∃ s n, v = .ofString s ∧ Value.port s = .ok n ∧ x = .port n
  | flow => ∃ f : Flow, v = .ofString f.name ∧ x = .flow f
  | title | host | status => ∃ s, v = .ofString s ∧ x = .text s

/-- The octets that items give for an option. -/
def Item.values (o : ValueOption) (is : List Item) : List Octets :=
  is.filterMap fun
    | .option o' v => if o' = o then some v else none
    | .flag => none

lemma Item.values_cons (o : ValueOption) (i : Item) (is : List Item) :
    values o (i :: is) = values o [i] ++ values o is := by
  rw [values, values, values, ← List.filterMap_append]
  rfl

lemma Value.eq_name_of_flow {s : String} {f : Flow} (h : flow s = .ok f) : s = f.name := by
  rw [flow] at h
  split at h
  · next f' hname =>
    obtain rfl := Except.ok.inj h
    have hfound := List.find?_some hname
    exact (of_decide_eq_true hfound).symm
  · cases h

lemma Value.verbosity_le {s : String} {n : Nat} (h : verbosity s = .ok n) : n ≤ 5 := by
  rw [verbosity] at h
  split at h
  · next m hread =>
    obtain rfl := Except.ok.inj h
    rw [LogLevel.readVerbosity?] at hread
    split at hread
    · next k hk =>
      obtain rfl := Option.some.inj hread
      exact of_decide_eq_true (Option.filter_eq_some_iff.1 hk).2
    · obtain ⟨l, -, rfl⟩ := Option.map_eq_some_iff.1 hread
      cases l <;> decide
  · cases h

namespace Given

variable {g g' : Given} {o : ValueOption}

lemma has_eq_isSome (g : Given) (o : ValueOption) :
    g.has o = ((Opt.value o).given? g).isSome := by
  cases o <;> exact Option.isSome_map.symm

/-- A value is kept as what it spells, and the other options are not touched. -/
lemma given?_of_store {v : Octets} (h : g.store o v = .ok g') :
    (∃ x, o.Reads v x ∧ (Opt.value o).given? g' = some x) ∧
      ∀ o' ≠ o, (Opt.value o').given? g' = (Opt.value o').given? g := by
  cases o with
  | port =>
      obtain ⟨n, hn, rfl⟩ := exists_of_map_eq_ok h
      obtain ⟨s, hs, hread⟩ := readValue_eq_ok_iff.1 hn
      exact ⟨⟨_, ⟨s, n, hs, hread, rfl⟩, rfl⟩, fun o' ho' => by cases o' <;> trivial⟩
  | flow =>
      obtain ⟨f, hf, rfl⟩ := exists_of_map_eq_ok h
      obtain ⟨s, rfl, hread⟩ := readValue_eq_ok_iff.1 hf
      obtain rfl := Value.eq_name_of_flow hread
      exact ⟨⟨_, ⟨f, rfl, rfl⟩, rfl⟩, fun o' ho' => by cases o' <;> trivial⟩
  | title | host | status =>
      obtain ⟨s, hs, rfl⟩ := exists_of_map_eq_ok h
      refine ⟨⟨_, ⟨s, readText_eq_ok_iff.1 hs, rfl⟩, rfl⟩, fun o' ho' => ?_⟩
      cases o' <;> trivial

/-- How the value that is found for an option changes with the octets that are given for it. -/
inductive Receives (o : ValueOption) :
    Option OptionValue → List Octets → Option OptionValue → Prop
  | nothing (x : Option OptionValue) : Receives o x [] x
  | value {v : Octets} {x : OptionValue} : o.Reads v x → Receives o none [v] (some x)

lemma Receives.append {x y z : Option OptionValue} {vs ws : List Octets}
    (h : Receives o x vs y) (h' : Receives o y ws z) : Receives o x (vs ++ ws) z := by
  cases h with
  | nothing => exact h'
  | value hread =>
      -- a second value would have been refused
      cases h' with
      | nothing => exact .value hread

lemma receives_of_takeItem {i : Item} (h : g.takeItem i = .ok g') (o : ValueOption) :
    Receives o ((Opt.value o).given? g) (Item.values o [i]) ((Opt.value o).given? g') := by
  cases i with
  | flag =>
      obtain ⟨n, -, rfl⟩ := exists_of_map_eq_ok h
      cases o <;> exact .nothing _
  | option o' v =>
      rw [takeItem_option] at h
      obtain ⟨w, hw, hnew, hstore⟩ := of_take h
      obtain rfl := Option.some.inj hw
      obtain ⟨⟨x, hread, hx⟩, hother⟩ := given?_of_store hstore
      by_cases ho : o = o'
      · subst o'
        have hnone : (Opt.value o).given? g = none := by
          rw [← Option.not_isSome_iff_eq_none, ← has_eq_isSome, hnew]
          exact Bool.false_ne_true
        have hvalues : Item.values o [.option o v] = [v] := by simp [Item.values]
        rw [hnone, hx, hvalues]
        exact .value hread
      · have hvalues : Item.values o [.option o' v] = [] := by simp [Item.values, Ne.symm ho]
        rw [hother o ho, hvalues]
        exact .nothing _

/-- An option is found as what its octets spell, and they are there once. -/
theorem receives_of_takeItems {is : List Item} (h : g.takeItems is = .ok g') (o : ValueOption) :
    Receives o ((Opt.value o).given? g) (Item.values o is) ((Opt.value o).given? g') := by
  induction is generalizing g with
  | nil =>
      obtain rfl := Except.ok.inj h
      exact .nothing _
  | cons i is ih =>
      rw [takeItems_cons] at h
      obtain ⟨g₁, hi, his⟩ := exists_of_bind_eq_ok h
      rw [Item.values_cons]
      exact (receives_of_takeItem hi o).append (ih his)

/-- The octets of an option that has been given in the end. -/
lemma exists_values_of_takeItems {is : List Item} (h : nothing.takeItems is = .ok g')
    {x : OptionValue} (hx : (Opt.value o).given? g' = some x) :
    ∃ v, Item.values o is = [v] ∧ o.Reads v x := by
  have hreceives := receives_of_takeItems h o
  have hnothing : (Opt.value o).given? nothing = none := by cases o <;> rfl
  rw [hnothing, hx] at hreceives
  generalize Item.values o is = vs at hreceives ⊢
  cases hreceives with
  | value hread => exact ⟨_, rfl, hread⟩

/-! ### The verbosity -/

/-- No more detail has been asked for than there is. -/
def IsModest (g : Given) : Prop := ∀ n, g.verbosity = some n → n ≤ 5

lemma isModest_nothing : nothing.IsModest := nofun

lemma isModest_of_takeItem {i : Item} (h : g.takeItem i = .ok g') (hg : g.IsModest) :
    g'.IsModest := by
  cases i with
  | flag =>
      obtain ⟨n, hn, rfl⟩ := exists_of_map_eq_ok h
      rintro m ⟨⟩
      cases hread : Value.verbosity (Nat.repr (g.verbosity.getD 0 + 1)) with
      | error e =>
          rw [hread] at hn
          cases hn
      | ok k =>
          rw [hread] at hn
          obtain rfl := Except.ok.inj hn
          exact Value.verbosity_le hread
  | option o v =>
      rw [takeItem_option] at h
      obtain ⟨w, -, -, hstore⟩ := of_take h
      rw [IsModest, (of_store hstore).2.2]
      exact hg

/-- Whatever has been taken, no more detail has been asked for than there is. -/
theorem isModest_of_takeItems {is : List Item} (h : g.takeItems is = .ok g')
    (hg : g.IsModest) : g'.IsModest := by
  induction is generalizing g with
  | nil =>
      obtain rfl := Except.ok.inj h
      exact hg
  | cons i is ih =>
      rw [takeItems_cons] at h
      obtain ⟨g₁, hi, his⟩ := exists_of_bind_eq_ok h
      exact ih his (isModest_of_takeItem hi hg)

end Given

/-! ### The arguments of a link -/

namespace Command

/-- The word `link` stands among the arguments of the main command. -/
def GivesLink (args : List Octets) : Prop := ∃ is rest, serve.Line is (some rest) args

/-- Behind the word `link` three options are given, once each, with these values. -/
def AsksForLink (args : List Octets) (host : String) (flow : Flow) (status : String) : Prop :=
  ∃ is rest js, serve.Line is (some rest) args ∧ link.Line js none rest ∧
    Item.values .host js = [.ofString host] ∧ Item.values .flow js = [.ofString flow.name] ∧
    Item.values .status js = [.ofString status]

/-- Where the main command ends is told by its arguments. -/
lemma Line.rest_eq {is js : List Item} {rest rest' : Option (List Octets)} {args : List Octets}
    {c : Command} (h : c.Line is rest args) (h' : c.Line js rest' args) {g : Given}
    (hg : Given.nothing.takeItems is = .ok g) : rest' = rest := by
  obtain ⟨t, hrun, -⟩ := Scan.exists_run_of_takeItems h hg
  obtain ⟨next, -, hrun'⟩ := Scan.start.exists_run_line h' rfl
  obtain ⟨t', -, ht'⟩ := exists_of_map_eq_ok (hrun'.symm.trans hrun)
  exact congrArg Prod.snd ht'

end Command

namespace Invocation

variable {env : Environment} {args : List Octets} {i : Invocation} {g : Given}

/-- The arguments behind the word `link` that have been read. -/
lemma exists_of_readLink {p : Task × Setting Nat} (h : readLink env args = .ok p) :
    ∃ js g, Command.link.Line js none args ∧ Given.nothing.takeItems js = .ok g ∧
      verbositySetting env g = .ok p.2 ∧ linkTask g = .ok p.1 := by
  rw [readLink_eq] at h
  obtain ⟨g, hg, h⟩ := exists_of_bind_eq_ok h
  obtain ⟨⟨t, rest⟩, hrun, ht⟩ := exists_of_bind_eq_ok hg
  obtain ⟨verbosity, hverbosity, h⟩ := exists_of_bind_eq_ok h
  obtain ⟨task, htask, rfl⟩ := exists_of_map_eq_ok h
  obtain ⟨js, hline, hjs⟩ := Scan.exists_line_of_settle hrun ht
  cases hline with
  | plain hwritten => exact ⟨js, g, .plain hwritten, hjs, hverbosity, htask⟩
  | closed hwritten => exact ⟨js, g, .closed hwritten, hjs, hverbosity, htask⟩
  | link hc => cases hc

/-- A link is asked for by the arguments behind the word `link`, and by nothing else. -/
theorem task_of_parse (h : parse env args = .ok i) :
    match i.task with
    | .serve => ¬ Command.GivesLink args
    | .link host flow status => Command.AsksForLink args host flow status := by
  obtain ⟨is, rest, g, inner, hline, hg, hrest, hi⟩ := exists_of_parse h
  obtain ⟨outer, -, htask⟩ := of_ofGiven hi
  cases rest with
  | none =>
      obtain rfl := Except.ok.inj hrest
      rw [htask.1]
      rintro ⟨js, rest, hline'⟩
      cases hline.rest_eq hline' hg
  | some rest =>
      obtain ⟨p, hread, rfl⟩ := exists_of_map_eq_ok hrest
      obtain ⟨js, g', hline', hg', -, hlink⟩ := exists_of_readLink hread
      obtain ⟨host, flow, status, hhost, hflow, hstatus, hp⟩ := of_linkTask hlink
      rw [htask.1, hp]
      have hvalue : ∀ o x, (Opt.value o).given? g' = some x →
          ∃ v, Item.values o js = [v] ∧ o.Reads v x := fun o x hx =>
        Given.exists_values_of_takeItems hg' hx
      obtain ⟨v, hv, s, rfl, hs⟩ := hvalue .host (.text host) (by rw [Opt.given?, hhost]; rfl)
      obtain ⟨w, hw, f, rfl, hf⟩ := hvalue .flow (.flow flow) (by rw [Opt.given?, hflow]; rfl)
      obtain ⟨u, hu, t, rfl, ht⟩ := hvalue .status (.text status) (by rw [Opt.given?, hstatus]; rfl)
      obtain rfl := OptionValue.text.inj hs
      obtain rfl := OptionValue.flow.inj hf
      obtain rfl := OptionValue.text.inj ht
      exact ⟨is, rest, js, hline, hline', hv, hw, hu⟩

lemma verbosity_le_of_verbositySetting (hg : g.IsModest) {x : Setting Nat}
    (h : verbositySetting env g = .ok x) : x.value ≤ 5 := by
  have hfound := of_resolve h
  obtain ⟨n, source⟩ := x
  cases source with
  | commandLine => exact hg n hfound
  | environment =>
      obtain ⟨-, v, -, hread⟩ := hfound
      obtain ⟨s, -, hs⟩ := readValue_eq_ok_iff.1 hread
      exact Value.verbosity_le hs
  | default =>
      obtain ⟨-, -, hzero⟩ := hfound
      exact hzero ▸ Nat.zero_le 5

/-- The verbosity is one that can be asked for. -/
theorem verbosity_le_of_parse (h : parse env args = .ok i) : i.verbosity.value ≤ 5 := by
  obtain ⟨is, rest, g, inner, -, hg, hrest, hi⟩ := exists_of_parse h
  obtain ⟨outer, houter, hinner⟩ := of_ofGiven hi
  have hmain : outer.value ≤ 5 :=
    verbosity_le_of_verbositySetting (Given.isModest_of_takeItems hg Given.isModest_nothing) houter
  cases rest with
  | none =>
      obtain rfl := Except.ok.inj hrest
      rwa [hinner.2]
  | some rest =>
      obtain ⟨p, hread, rfl⟩ := exists_of_map_eq_ok hrest
      obtain ⟨js, g', -, hg', hverbosity, -⟩ := exists_of_readLink hread
      have hlink : p.2.value ≤ 5 := verbosity_le_of_verbositySetting
        (Given.isModest_of_takeItems hg' Given.isModest_nothing) hverbosity
      rw [hinner.2, Setting.stronger]
      split
      · exact hmain
      · exact hlink

end Invocation

/-! ### The action -/

namespace Reading

variable {env : Environment} {args : List Octets}

/-- The action of an invocation. -/
lemma action_ofInvocation (i : Invocation) : (ofInvocation i).action = .ok
    (match i.task with
      | .serve => .serve i.port.value i.title.value
      | .link host flow status => .link host flow status) := by
  obtain ⟨port, title, verbosity, task⟩ := i
  cases task <;> rfl

/-- An action is taken from every command line that has been read, and no default of its own is
needed for that.  It is a link exactly if the word `link` is there, and then with the values that
the three options spell. -/
theorem action_of_read {r : Reading} (h : read env args = .ok r) :
    ∃ action port title verbosity, r.action = .ok action ∧
      r.main.get? .port (.value .port) = .ok (some port) ∧
      r.main.get? .text (.value .title) = .ok (some title) ∧
      r.main.get? .count (.switch .verbose) = .ok (some verbosity) ∧ verbosity ≤ 5 ∧
      (∀ m ∈ r.link, m.get? .count (.switch .verbose) = .ok (some verbosity)) ∧
      match action with
      | .serve p t => (p = port ∧ t = title) ∧ ¬ Command.GivesLink args
      | .link host flow status => Command.AsksForLink args host flow status := by
  rw [read_eq] at h
  obtain ⟨i, hparse, rfl⟩ := exists_of_map_eq_ok h
  have htask := Invocation.task_of_parse hparse
  have hverbosity := Invocation.verbosity_le_of_parse hparse
  refine ⟨_, i.port.value, i.title.value, i.verbosity.value, action_ofInvocation i, rfl, rfl, rfl,
    hverbosity, ?_, ?_⟩
  · intro m hm
    rw [ofInvocation] at hm
    cases hi : i.task with
    | serve =>
        rw [hi] at hm
        cases hm
    | link host flow status =>
        rw [hi] at hm
        obtain rfl := Option.some.inj hm
        rfl
  · cases hi : i.task with
    | serve =>
        rw [hi] at htask
        exact ⟨⟨rfl, rfl⟩, htask⟩
    | link host flow status =>
        rw [hi] at htask
        exact htask

/-- A link behind a port, with flags of its own and with octets that are no text in a variable. -/
theorem action_of_link_with_flags :
    let env : Environment := [(Invocation.portVariable, [0xFF])]
    let args := ["-p3000", "link", "-vv", "--host", "id.example.com", "--flow=confirmation",
      "--status=success"].map Octets.ofString
    ∃ r, read env args = .ok r ∧
      r.action = .ok (.link "id.example.com" .confirmation "success") ∧
      r.main.get? .count (.switch .verbose) = .ok (some 2) ∧
      Command.AsksForLink args "id.example.com" .confirmation "success" := by
  intro env args
  have hread : read env args = .ok (ofInvocation ⟨⟨3000, .commandLine⟩,
      ⟨"Never Expires", .default⟩, ⟨2, .commandLine⟩,
      .link "id.example.com" .confirmation "success"⟩) := by decide +kernel
  obtain ⟨action, port, title, verbosity, haction, -, -, -, -, -, hlink⟩ := action_of_read hread
  obtain rfl : Action.link "id.example.com" .confirmation "success" = action :=
    Except.ok.inj haction
  exact ⟨_, hread, haction, rfl, hlink⟩

end Reading

end ResultPages
