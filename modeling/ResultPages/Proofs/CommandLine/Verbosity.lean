/-
Flags for verbosity added to a command line.

Flags are added to a command line that asks for no verbosity, all of them among the arguments of
one command (`FlagsAdded`).  Up to five of them are counted, and their number is the verbosity
that holds.  Two things stand against them: a sixth flag is refused, and if a link is asked for,
the command that has no flags reads the variable, which then has to be readable
(`parse_flagsAdded`, `parse_flagsAdded_iff`).
-/
import ResultPages.Proofs.CommandLine.Reading

namespace ResultPages

namespace LogLevel

lemma ofVerbosity?_min (n : Nat) : ofVerbosity? (min n 255) = ofVerbosity? n := by
  match n with
  | 0 | 1 | 2 | 3 => rfl
  | n + 4 =>
      obtain ⟨m, hm⟩ : ∃ m, min (n + 4) 255 = m + 4 := ⟨min (n + 4) 255 - 4, by omega⟩
      rw [hm]
      rfl

end LogLevel

namespace Setting

lemma default_of_stronger {α : Type} {outer inner : Setting α}
    (h : (outer.stronger inner).source = .default) :
    outer.source = .default ∧ inner.source = .default := by
  obtain ⟨x, a⟩ := outer
  obtain ⟨y, b⟩ := inner
  cases a <;> cases b <;> first | exact ⟨rfl, rfl⟩ | cases h

end Setting

namespace Given

/-- The sixth flag is no fault of a value. -/
lemma readValue_ne_tooLoud {α : Type} {argument : String}
    (h : argument ≠ Switch.verbose.usage) (read : String → Except ValueError α) (v : Octets) :
    readValue argument read v ≠ .error tooLoud := by
  rw [readValue, readText]
  cases v.toString? with
  | none => exact fun heq => nomatch heq
  | some s =>
      change (read s).mapError _ ≠ _
      cases read s with
      | ok x => exact fun heq => nomatch heq
      | error e =>
          intro heq
          exact h (Complaint.badValue.inj (Except.error.inj heq)).2.1

lemma readText_ne_tooLoud (v : Octets) : readText v ≠ .error tooLoud := by
  rw [readText]
  cases v.toString? <;> exact fun heq => nomatch heq

lemma take_ne_tooLoud (g : Given) (o : ValueOption) (v : Option Octets) :
    g.take o v ≠ .error tooLoud := by
  have hmap : ∀ {α : Type} {x : Except Complaint α} (f : α → Given),
      x ≠ .error tooLoud → x.map f ≠ .error tooLoud := by
    intro α x f hx heq
    cases x with
    | ok a => cases heq
    | error e => exact hx (congrArg _ (Except.error.inj heq))
  have husage : o.usage ≠ Switch.verbose.usage := by cases o <;> decide
  cases v with
  | none =>
      intro heq
      cases heq
  | some v =>
      rw [take]
      split
      · intro heq
        cases heq
      · cases o with
        | port | flow => exact hmap _ (readValue_ne_tooLoud husage _ v)
        | title | host | status => exact hmap _ (readText_ne_tooLoud v)

/-- Flags among options that are taken. -/
lemma takeItems_nothing {is : List Item} {g : Given}
    (h : nothing.takeItems (is.filter (· ≠ .flag)) = .ok g) :
    nothing.takeItems is =
      if is.count .flag ≤ 5 then .ok (g.flagged (is.count .flag)) else .error tooLoud := by
  have hflagged := takeItems_flagged rfl h (Nat.zero_le 5)
  rwa [flagged_zero, Nat.zero_add] at hflagged

end Given

namespace Invocation

variable {env env₀ : Environment} {g : Given} {n : Nat}

/-! ### Settings next to flags -/

lemma portSetting_flagged (env : Environment) (g : Given) (n : Nat) :
    portSetting env (g.flagged n) = portSetting env g := by
  cases n <;> rfl

lemma titleSetting_flagged (env : Environment) (g : Given) (n : Nat) :
    titleSetting env (g.flagged n) = titleSetting env g := by
  cases n <;> rfl

lemma linkTask_flagged (g : Given) (n : Nat) : linkTask (g.flagged n) = linkTask g := by
  cases n <;> rfl

lemma verbositySetting_flagged (hn : n ≠ 0) (env : Environment) (g : Given) :
    verbositySetting env (g.flagged n) = .ok ⟨n, .commandLine⟩ := by
  obtain ⟨m, rfl⟩ := Nat.exists_eq_succ_of_ne_zero hn
  rfl

/-- The verbosity of a command without flags. -/
def unflagged (env : Environment) : Except Complaint (Setting Nat) :=
  verbositySetting env .nothing

lemma verbositySetting_of_none (h : g.verbosity = none) (env : Environment) :
    verbositySetting env g = unflagged env := by
  rw [verbositySetting, h]
  rfl

/-- Flags are stronger than the variable and the default. -/
lemma stronger_of_unflagged {x : Setting Nat} (h : unflagged env = .ok x) (n : Nat) :
    Setting.stronger ⟨n, .commandLine⟩ x = ⟨n, .commandLine⟩ ∧
      Setting.stronger x ⟨n, .commandLine⟩ = ⟨n, .commandLine⟩ := by
  rw [unflagged, verbositySetting] at h
  have hfound := of_resolve h
  obtain ⟨m, source⟩ := x
  cases source with
  | commandLine => cases hfound
  | environment | default => exact ⟨rfl, rfl⟩

/-! ### A command line without flags -/

/-- What has been given by a command line that asks for no verbosity. -/
structure IsQuiet (env : Environment) (g : Given) (rest : Option (List Octets))
    (i : Invocation) : Prop where
  verbosity_eq : g.verbosity = none
  port_eq : portSetting env g = .ok i.port
  title_eq : titleSetting env g = .ok i.title
  task_eq : match rest with
    | none => i.task = .serve
    | some args => ∃ g', (Scan.start.run .link args).bind (·.1.settle) = .ok g' ∧
        g'.verbosity = none ∧ linkTask g' = .ok i.task

lemma eq_none_of_default {x : Setting Nat} (h : verbositySetting env g = .ok x)
    (hx : x.source = .default) : g.verbosity = none := by
  rw [verbositySetting] at h
  have hfound := of_resolve h
  rw [hx] at hfound
  exact hfound.1

lemma isQuiet_of_parse {is : List Item} {rest : Option (List Octets)} {args : List Octets}
    {i : Invocation} (hline : Command.serve.Line is rest args)
    (hparse : parse env args = .ok i) (hdefault : i.verbosity.source = .default) :
    ∃ g, Given.nothing.takeItems is = .ok g ∧ IsQuiet env g rest i := by
  obtain ⟨is', rest', g, inner, hline', hg', -, -⟩ := exists_of_parse hparse
  have hg : Given.nothing.takeItems is = .ok g := by
    rw [← Scan.settle_run hline, Scan.settle_run hline', hg']
  rw [parse_of_line hline hg] at hparse
  obtain ⟨inner, hrest, hi⟩ := exists_of_bind_eq_ok hparse
  obtain ⟨hport, htitle, -⟩ := settings_of_ofGiven hi
  obtain ⟨outer, houter, hinner⟩ := of_ofGiven hi
  refine ⟨g, hg, ?_⟩
  cases rest with
  | none =>
      obtain rfl := Except.ok.inj hrest
      rw [hinner.2] at hdefault
      exact ⟨eq_none_of_default houter hdefault, hport, htitle, hinner.1⟩
  | some args =>
      obtain ⟨⟨task, x⟩, hlink, rfl⟩ := exists_of_map_eq_ok hrest
      rw [hinner.2] at hdefault
      -- neither of the two commands has flags: the stronger of their settings is the default
      obtain ⟨hdefaultOuter, hdefaultInner⟩ := Setting.default_of_stronger hdefault
      rw [readLink_eq] at hlink
      obtain ⟨g', hsettle, hp⟩ := exists_of_bind_eq_ok hlink
      obtain ⟨x', hx', hp⟩ := exists_of_bind_eq_ok hp
      obtain ⟨task', htask, hp⟩ := exists_of_map_eq_ok hp
      obtain ⟨rfl, rfl⟩ := Prod.mk.inj hp
      refine ⟨eq_none_of_default houter hdefaultOuter, hport, htitle, g', hsettle,
        eq_none_of_default hx' hdefaultInner, ?_⟩
      rw [hinner.1]
      exact htask

/-- An environment that differs in the variable for the verbosity does not change that. -/
lemma IsQuiet.congr {rest : Option (List Octets)} {i : Invocation}
    (h : IsQuiet env₀ g rest i) (hagree : env₀.AgreesOff verbosityVariable env) :
    IsQuiet env g rest i where
  verbosity_eq := h.verbosity_eq
  port_eq := by
    rw [portSetting, hagree _ (by decide)]
    exact h.port_eq
  title_eq := by
    rw [titleSetting, hagree _ (by decide)]
    exact h.title_eq
  task_eq := h.task_eq

/-! ### Flags that are added -/

/-- A command line with `n` flags for verbosity more, all of which stand among the options of
one command. -/
inductive FlagsAdded (n : Nat) (args₀ args : List Octets) : Prop where
  /-- In front of the word `link`, or where there is no such word. -/
  | main {is : List Item} {rest : Option (List Octets)} :
      Command.serve.Line (is.filter (· ≠ .flag)) rest args₀ →
      Command.serve.Line is rest args → is.count .flag = n → FlagsAdded n args₀ args
  /-- Behind the word `link`. -/
  | link {is js : List Item} {rest₀ rest : List Octets} :
      Command.serve.Line is (some rest₀) args₀ → Command.serve.Line is (some rest) args →
      Command.link.Line (js.filter (· ≠ .flag)) none rest₀ → Command.link.Line js none rest →
      js.count .flag = n → FlagsAdded n args₀ args

/-- What a command line asks for with some flags added. -/
def withFlags (i : Invocation) (n : Nat) : Invocation := { i with verbosity := ⟨n, .commandLine⟩ }

/-- What is read when flags are added.  The other command of a link has none, and reads the
variable. -/
def afterFlags (env : Environment) (i : Invocation) (n : Nat) : Except Complaint Invocation :=
  if 5 < n then .error Given.tooLoud
  else if i.task = .serve then .ok (i.withFlags n)
  else (unflagged env).map fun _ => i.withFlags n

lemma ne_serve_of_linkTask {task : Task} (h : linkTask g = .ok task) : task ≠ .serve := by
  obtain ⟨host, flow, status, -, -, -, rfl⟩ := of_linkTask h
  exact nofun

variable {i : Invocation}

/-- Flags among the options of the main command. -/
lemma ofGiven_flagged {rest : Option (List Octets)} (h : IsQuiet env g rest i) (hn : n ≠ 0)
    (hfive : n ≤ 5) :
    (readRest env rest).bind (ofGiven env (g.flagged n)) = afterFlags env i n := by
  have hport := (portSetting_flagged env g n).trans h.port_eq
  have htitle := (titleSetting_flagged env g n).trans h.title_eq
  have hof := ofGiven_eq hport htitle
  simp only [verbositySetting_flagged hn, Except.map] at hof
  have htask := h.task_eq
  rw [afterFlags, if_neg (by omega)]
  cases rest with
  | none =>
      rw [if_pos htask, readRest]
      refine (hof none).trans ?_
      rw [withFlags, htask]
  | some args =>
      obtain ⟨g', hsettle, hverbosity, htask⟩ := htask
      rw [if_neg (ne_serve_of_linkTask htask), readRest, readLink_eq, hsettle]
      change (Except.map some (linkOfGiven env g')).bind _ = _
      rw [linkOfGiven, verbositySetting_of_none hverbosity, htask]
      cases hx : unflagged env with
      | error e => rfl
      | ok x =>
          refine (hof (some (i.task, x))).trans (congrArg Except.ok ?_)
          exact congrArg (Invocation.mk _ _ · _) (stronger_of_unflagged hx n).1

/-- Flags among the options of a link. -/
lemma ofGiven_link_flagged {g' : Given} (hport : portSetting env g = .ok i.port)
    (htitle : titleSetting env g = .ok i.title) (hverbosity : g.verbosity = none)
    (htask : linkTask g' = .ok i.task) (hn : n ≠ 0) (hfive : n ≤ 5) :
    ((linkOfGiven env (g'.flagged n)).map some).bind (ofGiven env g) = afterFlags env i n := by
  have hlink : linkOfGiven env (g'.flagged n) = .ok (i.task, ⟨n, .commandLine⟩) := by
    rw [linkOfGiven, verbositySetting_flagged hn, linkTask_flagged, htask]
    rfl
  rw [afterFlags, if_neg (by omega), if_neg (ne_serve_of_linkTask htask), hlink]
  refine (ofGiven_eq hport htitle (some (i.task, ⟨n, .commandLine⟩))).trans ?_
  rw [verbositySetting_of_none hverbosity]
  cases hx : unflagged env with
  | error e => rfl
  | ok x =>
      refine congrArg Except.ok ?_
      exact congrArg (Invocation.mk _ _ · _) (stronger_of_unflagged hx n).2

/-- What becomes of a command line that asks for no verbosity when flags are added to it. -/
theorem parse_flagsAdded {args₀ args : List Octets} (hadded : FlagsAdded n args₀ args)
    (hn : n ≠ 0) (hparse : parse env₀ args₀ = .ok i)
    (hdefault : i.verbosity.source = .default)
    (hagree : env₀.AgreesOff verbosityVariable env) : parse env args = afterFlags env i n := by
  cases hadded with
  | @main is rest hline₀ hline hcount =>
      obtain ⟨g, hg, hquiet⟩ := isQuiet_of_parse hline₀ hparse hdefault
      have htaken := Given.takeItems_nothing hg
      rw [hcount] at htaken
      by_cases hfive : n ≤ 5
      · rw [if_pos hfive] at htaken
        rw [parse_of_line hline htaken]
        exact ofGiven_flagged (hquiet.congr hagree) hn hfive
      · -- the sixth flag is met before a link behind it, or a variable, is looked at
        rw [if_neg hfive] at htaken
        rw [parse_eq, Scan.run_eq_error hline htaken Given.take_ne_tooLoud, afterFlags,
          if_pos (by omega)]
        rfl
  | @link is js rest₀ rest hline₀ hline hlink₀ hlink hcount =>
      obtain ⟨g, hg, hquiet⟩ := isQuiet_of_parse hline₀ hparse hdefault
      obtain ⟨hverbosity, hport, htitle, g', hg', -, htask⟩ := hquiet.congr hagree
      rw [Scan.settle_run hlink₀] at hg'
      have htaken := Given.takeItems_nothing hg'
      rw [hcount] at htaken
      rw [parse_of_line hline hg, readRest, readLink_eq, Scan.settle_run hlink, htaken]
      by_cases hfive : n ≤ 5
      · rw [if_pos hfive]
        exact ofGiven_link_flagged hport htitle hverbosity htask hn hfive
      · rw [if_neg hfive, afterFlags, if_pos (by omega)]
        rfl

/-! ### When flags are taken -/

/-- Whether the variable for the verbosity can be read, if it is set. -/
def IsReadable (env : Environment) : Prop :=
  ∀ v, env.get? verbosityVariable = some v → ∃ m, readVerbosity v = .ok m

lemma unflagged_of_some {v : Octets} (h : env.get? verbosityVariable = some v) :
    unflagged env = (readVerbosity v).map (⟨·, .environment⟩) := by
  rw [unflagged, verbositySetting, h]
  rfl

lemma exists_unflagged_iff : (∃ x, unflagged env = .ok x) ↔ IsReadable env := by
  cases hv : env.get? verbosityVariable with
  | none =>
      refine iff_of_true ⟨⟨0, .default⟩, ?_⟩ ?_
      · rw [unflagged, verbositySetting, hv]
        rfl
      · intro v hv'
        rw [hv] at hv'
        cases hv'
  | some v =>
      rw [unflagged_of_some hv]
      constructor
      · rintro ⟨x, hx⟩ w hw
        obtain ⟨m, hm, -⟩ := exists_of_map_eq_ok hx
        obtain rfl := Option.some.inj (hv.symm.trans hw)
        exact ⟨m, hm⟩
      · intro hread
        obtain ⟨m, hm⟩ := hread v hv
        rw [hm]
        exact ⟨⟨m, .environment⟩, rfl⟩

lemma exists_afterFlags_iff :
    (∃ i', afterFlags env i n = .ok i') ↔ n ≤ 5 ∧ (i.task = .serve ∨ IsReadable env) := by
  rw [afterFlags, ← exists_unflagged_iff]
  by_cases hfive : 5 < n
  · rw [if_pos hfive]
    refine iff_of_false ?_ (by omega)
    rintro ⟨i', hi'⟩
    cases hi'
  rw [if_neg hfive]
  by_cases htask : i.task = .serve
  · rw [if_pos htask]
    exact iff_of_true ⟨_, rfl⟩ ⟨by omega, Or.inl htask⟩
  · rw [if_neg htask]
    constructor
    · rintro ⟨i', hi'⟩
      obtain ⟨x, hx, -⟩ := exists_of_map_eq_ok hi'
      exact ⟨by omega, Or.inr ⟨x, hx⟩⟩
    · rintro ⟨-, hserve | ⟨x, hx⟩⟩
      · exact absurd hserve htask
      · rw [hx]
        exact ⟨i.withFlags n, rfl⟩

lemma eq_withFlags_of_afterFlags {i' : Invocation} (h : afterFlags env i n = .ok i') :
    i' = i.withFlags n := by
  rw [afterFlags] at h
  split at h
  · cases h
  split at h
  · exact (Except.ok.inj h).symm
  · obtain ⟨x, -, hi'⟩ := exists_of_map_eq_ok h
    exact hi'.symm

/-- A command line to which flags are added is read exactly if there are no more than five of
them and, for a link, the variable can be read.  Then the verbosity is the number of flags,
whatever the variable says, and nothing else changes. -/
theorem parse_flagsAdded_iff {args₀ args : List Octets} (hadded : FlagsAdded n args₀ args)
    (hn : n ≠ 0) (hparse : parse env₀ args₀ = .ok i)
    (hdefault : i.verbosity.source = .default)
    (hagree : env₀.AgreesOff verbosityVariable env) :
    ((∃ i', parse env args = .ok i') ↔ n ≤ 5 ∧ (i.task = .serve ∨ IsReadable env)) ∧
    (∀ i', parse env args = .ok i' → i' = { i with verbosity := ⟨n, .commandLine⟩ } ∧
      LogLevel.ofVerbosity? i'.verbosity.value = LogLevel.ofVerbosity? (min n 255)) ∧
    (5 < n → parse env args =
      .error (.badValue "6" Switch.verbose.usage .invalidLevel)) ∧
    (n ≤ 5 → i.task ≠ .serve → ∀ v e, env.get? verbosityVariable = some v →
      readVerbosity v = .error e → parse env args = .error e) := by
  rw [parse_flagsAdded hadded hn hparse hdefault hagree]
  refine ⟨exists_afterFlags_iff, ?_, ?_, ?_⟩
  · intro i' hi'
    rw [eq_withFlags_of_afterFlags hi']
    exact ⟨rfl, (LogLevel.ofVerbosity?_min n).symm⟩
  · intro hsix
    rw [afterFlags, if_pos hsix]
    rfl
  · intro hfive htask v e hv he
    rw [afterFlags, if_neg (by omega), if_neg htask, unflagged_of_some hv, he]
    rfl

/-! ### Flags behind the word `link`, and six flags -/

/-- The same link with three flags and without. -/
lemma flagsAdded_link : FlagsAdded 3
    (["link", "--host=id.example.com", "--flow=confirmation", "--status=success"].map .ofString)
    (["link", "-vv", "--host=id.example.com", "--flow=confirmation", "--verbose",
      "--status=success"].map .ofString) := by
  have hpiece : ∀ o v, Opt.value o ∈ Command.link.options → Command.link.Piece [.option o v]
      ['-'.toUInt8 :: '-'.toUInt8 :: Octets.ofString o.name ++ '='.toUInt8 :: v] :=
    fun o v ho => .attached v (.long ho)
  have hhost := hpiece .host (.ofString "id.example.com") (by decide)
  have hflow := hpiece .flow (.ofString "confirmation") (by decide)
  have hstatus := hpiece .status (.ofString "success") (by decide)
  have hwithout : Command.link.Line [.option .host (.ofString "id.example.com"),
      .option .flow (.ofString "confirmation"), .option .status (.ofString "success")] none
      (["--host=id.example.com", "--flow=confirmation", "--status=success"].map .ofString) := by
    refine .plain ?_
    convert Command.Written.cons hhost (.cons hflow (.cons hstatus .nil)) using 1 <;> decide
  have hwith : Command.link.Line [.flag, .flag, .option .host (.ofString "id.example.com"),
      .option .flow (.ofString "confirmation"), .flag, .option .status (.ofString "success")] none
      (["-vv", "--host=id.example.com", "--flow=confirmation", "--verbose",
        "--status=success"].map .ofString) := by
    refine .plain ?_
    convert Command.Written.cons (.flags 1)
      (.cons hhost (.cons hflow (.cons .verbose (.cons hstatus .nil)))) using 1 <;> decide
  refine .link (.link rfl .nil) (.link rfl .nil) ?_ hwith rfl
  exact hwithout

/-- Three flags that hold against the variable, which the main command reads. -/
theorem parse_link_with_flags :
    let env : Environment := [(verbosityVariable, .ofString "info")]
    let args := ["link", "-vv", "--host=id.example.com", "--flow=confirmation", "--verbose",
      "--status=success"].map Octets.ofString
    ∃ i', parse env args = .ok i' ∧
      i' = ⟨⟨8080, .default⟩, ⟨"Never Expires", .default⟩, ⟨3, .commandLine⟩,
        .link "id.example.com" .confirmation "success"⟩ ∧
      LogLevel.ofVerbosity? i'.verbosity.value = LogLevel.ofVerbosity? (min 3 255) := by
  intro env args
  have hparse : parse [] (["link", "--host=id.example.com", "--flow=confirmation",
      "--status=success"].map .ofString) = .ok ⟨⟨8080, .default⟩, ⟨"Never Expires", .default⟩,
        ⟨0, .default⟩, .link "id.example.com" .confirmation "success"⟩ := by decide +kernel
  have hagree : Environment.AgreesOff verbosityVariable [] env := by
    intro n hn
    simp [env, Environment.get?, hn.symm]
  have hreadable : IsReadable env := by
    intro v hv
    obtain rfl : Octets.ofString "info" = v := Option.some.inj hv
    exact ⟨2, by decide +kernel⟩
  obtain ⟨hiff, hflags, -⟩ :=
    parse_flagsAdded_iff flagsAdded_link (by decide) hparse rfl hagree
  obtain ⟨i', hi'⟩ := hiff.2 ⟨by decide, Or.inr hreadable⟩
  exact ⟨i', hi', hflags i' hi'⟩

/-- Six flags in one argument. -/
lemma flagsAdded_six : FlagsAdded 6 [] [.ofString "-vvvvvv"] := by
  have hwith : Command.serve.Line (List.replicate 6 .flag) none [.ofString "-vvvvvv"] := by
    refine .plain ?_
    convert Command.Written.cons (.flags 5) .nil using 1 <;> decide +kernel
  exact .main (.plain .nil) hwith rfl

/-- Flags do not always work: six of them turn a command line that is read into one that is
not. -/
theorem not_forall_parse_flagsAdded : ¬ ∀ (n : Nat) (args₀ args : List Octets)
    (env₀ env : Environment) (i : Invocation), n ≠ 0 → FlagsAdded n args₀ args →
      parse env₀ args₀ = .ok i → i.verbosity.source = .default →
      env₀.AgreesOff verbosityVariable env → ∃ i', parse env args = .ok i' ∧
        LogLevel.ofVerbosity? i'.verbosity.value = LogLevel.ofVerbosity? (min n 255) := by
  intro h
  have hparse : parse [] [] = .ok ⟨⟨8080, .default⟩, ⟨"Never Expires", .default⟩,
      ⟨0, .default⟩, .serve⟩ := by decide +kernel
  have hsix : parse [] [.ofString "-vvvvvv"] =
      .error (.badValue "6" Switch.verbose.usage .invalidLevel) := by decide +kernel
  obtain ⟨i', hi', -⟩ := h 6 [] [.ofString "-vvvvvv"] [] [] _ (by decide) flagsAdded_six hparse rfl
    fun _ _ => rfl
  rw [hsix] at hi'
  cases hi'

end Invocation

end ResultPages
