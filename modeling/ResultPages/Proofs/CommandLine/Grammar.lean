/-
What the arguments of a command spell.

An argument spells some items: flags for verbosity, and at most one option, whose value is
attached or stands in the next argument (`Piece`).  Arguments that can be read spell the items
of their pieces one after the other, and at the end of a command line `--` may stand (`Line`).
The main command ends in front of the word `link`, and what stands behind that word is left.

What has been written in this grammar is read, and gives what its items give
(`exists_run_line`).  The reader takes an option with its value in the next argument only when
something follows, so a step is described by what is given once the waiting option has been
taken as well (`Gives`).
-/
import ResultPages.CommandLine.Scan
import ResultPages.Proofs.CommandLine.Items

namespace ResultPages

namespace Command

/-! ### The grammar -/

/-- How an argument names an option of a command: by its name behind two hyphens, or by its
letter behind one hyphen and a number of flags. -/
inductive Handle (c : Command) (o : ValueOption) : Nat → Octets → Prop where
  | long : Opt.value o ∈ c.options →
      Handle c o 0 ('-'.toUInt8 :: '-'.toUInt8 :: Octets.ofString o.name)
  | letter {l : Char} (n : Nat) : Opt.value o ∈ c.options → (Opt.value o).letter? = some l →
      Handle c o n ('-'.toUInt8 :: (List.replicate n 'v'.toUInt8 ++ [l.toUInt8]))

/-- The items of one argument, or of an option and its value. -/
inductive Piece (c : Command) : List Item → List Octets → Prop where
  /-- `--verbose` -/
  | verbose :
      Piece c [.flag] ['-'.toUInt8 :: '-'.toUInt8 :: Octets.ofString Switch.verbose.name]
  /-- `-v`, `-vv` -/
  | flags (n : Nat) : Piece c (List.replicate (n + 1) .flag)
      ['-'.toUInt8 :: List.replicate (n + 1) 'v'.toUInt8]
  /-- `--name=value`, `-n=value` -/
  | attached {o : ValueOption} {n : Nat} {h : Octets} (v : Octets) : Handle c o n h →
      Piece c (List.replicate n .flag ++ [.option o v]) [h ++ '='.toUInt8 :: v]
  /-- `-nvalue` -/
  | joined {o : ValueOption} {l : Char} (n : Nat) {b : UInt8} (v : Octets) :
      Opt.value o ∈ c.options → (Opt.value o).letter? = some l → b ≠ '='.toUInt8 →
      Piece c (List.replicate n .flag ++ [.option o (b :: v)])
        ['-'.toUInt8 :: (List.replicate n 'v'.toUInt8 ++ l.toUInt8 :: b :: v)]
  /-- `--name value`, `-n value` -/
  | apart {o : ValueOption} {n : Nat} {h v : Octets} : Handle c o n h →
      Scan.isDashed v = false → Piece c (List.replicate n .flag ++ [.option o v]) [h, v]

/-- The items of some arguments. -/
inductive Written (c : Command) : List Item → List Octets → Prop where
  | nil : Written c [] []
  | cons {is js : List Item} {part args : List Octets} :
      Piece c is part → Written c js args → Written c (is ++ js) (part ++ args)

/-- The items of all arguments of a command, and the arguments of another command behind it. -/
inductive Line (c : Command) : List Item → Option (List Octets) → List Octets → Prop where
  | plain {is : List Item} {args : List Octets} : Written c is args → Line c is none args
  /-- With `--` at the end. -/
  | closed {is : List Item} {args : List Octets} :
      Written c is args → Line c is none (args ++ [Octets.ofString "--"])
  /-- With the word `link` behind the main command. -/
  | link {is : List Item} {args rest : List Octets} : c = .serve → Written c is args →
      Line c is (some rest) (args ++ Octets.ofString linkWord :: rest)

/-! ### Names and letters -/

lemma ofName?_name {c : Command} {o : ValueOption} (h : Opt.value o ∈ c.options) :
    c.ofName? (Octets.ofString o.name) = some (.value o) := by
  have hall : ∀ c ∈ [serve, link], ∀ o ∈ [ValueOption.port, .title, .host, .flow, .status],
      Opt.value o ∈ c.options → c.ofName? (Octets.ofString o.name) = some (.value o) := by
    decide
  exact hall c (by cases c <;> simp) o (by cases o <;> simp) h

lemma ofName?_verbose (c : Command) :
    c.ofName? (Octets.ofString Switch.verbose.name) = some (.switch .verbose) := by
  cases c <;> decide

lemma ofLetter?_verbose (c : Command) : c.ofLetter? 'v' = some (.switch .verbose) := by
  cases c <;> rfl

end Command

namespace ValueOption

lemma equals_not_mem_name (o : ValueOption) : '='.toUInt8 ∉ Octets.ofString o.name := by
  cases o <;> decide

lemma name_ne_nil (o : ValueOption) : Octets.ofString o.name ≠ [] := by
  cases o <;> decide +kernel

end ValueOption

namespace Scan

variable {c : Command} {o : ValueOption} (s : Scan)

/-- A command word does not begin with a hyphen. -/
lemma ne_word (bs : Octets) : '-'.toUInt8 :: bs ≠ Octets.ofString Command.helpWord ∧
    '-'.toUInt8 :: bs ≠ Octets.ofString Command.linkWord := by
  have hhelp : (Octets.ofString Command.helpWord).head? = some 'h'.toUInt8 := by decide
  have hlink : (Octets.ofString Command.linkWord).head? = some 'l'.toUInt8 := by decide
  constructor
  · intro h
    rw [← h, List.head?_cons] at hhelp
    exact absurd hhelp (by decide)
  · intro h
    rw [← h, List.head?_cons] at hlink
    exact absurd hlink (by decide)

lemma ofString_dashes : Octets.ofString "--" = ['-'.toUInt8, '-'.toUInt8] := by decide

/-- An argument that begins with a hyphen and goes on is read for options, unless it is `--`. -/
lemma run_dashed {bs : Octets} (hne : bs ≠ []) (h : bs ≠ ['-'.toUInt8]) (rest : List Octets) :
    s.run c (('-'.toUInt8 :: bs) :: rest) =
      (s.takeDashed c ('-'.toUInt8 :: bs)).bind fun t => t.run c rest := by
  obtain ⟨hhelp, hlink⟩ := ne_word bs
  have hdashes : '-'.toUInt8 :: bs ≠ Octets.ofString "--" := by
    rw [ofString_dashes]
    intro hsame
    exact h (List.cons.inj hsame).2
  have hdashed : isDashed ('-'.toUInt8 :: bs) = true := by
    obtain ⟨b, ds, rfl⟩ := List.exists_cons_of_ne_nil hne
    simp [isDashed]
  rw [run.eq_def]
  simp only [hhelp, hlink, and_false, if_false, if_neg hdashes, if_pos hdashed]
  cases s.takeDashed c ('-'.toUInt8 :: bs) <;> rfl

/-- The value of an option that waits is the next argument, if that does not look like an
option. -/
lemma run_waiting {v : Octets} (hv : isDashed v = false) (g : Given) (rest : List Octets) :
    run c ⟨g, some (o, none)⟩ (v :: rest) = run c ⟨g, some (o, some v)⟩ rest := by
  have hdashes : v ≠ Octets.ofString "--" := by
    rintro rfl
    rw [ofString_dashes] at hv
    exact absurd hv (by decide)
  rw [run.eq_def]
  simp [wantsValue, hdashes, hv, fill?]

lemma takeName_eq (ho : Opt.value o ∈ c.options) :
    s.takeName c (Octets.ofString o.name) = s.takeValue o none := by
  simp only [takeName, cut_of_not_mem o.equals_not_mem_name, Command.ofName?_name ho]

lemma takeName_attached (ho : Opt.value o ∈ c.options) (v : Octets) :
    s.takeName c (Octets.ofString o.name ++ '='.toUInt8 :: v) = s.takeValue o (some v) := by
  simp only [takeName, cut_append_cons o.equals_not_mem_name, Command.ofName?_name ho]

/-- There is one option with a letter. -/
lemma letter_eq {l : Char} (hl : (Opt.value o).letter? = some l) : o = .port ∧ l = 'p' := by
  cases o with
  | port => exact ⟨rfl, (Option.some.inj hl).symm⟩
  | title | host | flow | status => cases hl

lemma takeLetters_eq (ho : Opt.value .port ∈ c.options) (bs : Octets) :
    s.takeLetters c ('p'.toUInt8 :: bs) = s.takeValue .port (attached? bs) := by
  cases c with
  | serve => rfl
  | link => simp [Command.options] at ho

/-! ### Reading what has been written -/

/-- A step that takes some items: what is given at `next` has been taken from what is given
now. -/
structure Gives (is : List Item) (next : Except Complaint Scan) : Prop where
  settle_next : next.bind settle = s.settle.bind (·.takeItems is)
  wantsValue_next : s.wantsValue = false → ∀ t, next = .ok t → t.wantsValue = false

variable {s} in
/-- Steps one after the other take the items of both. -/
lemma Gives.bind {is js : List Item} {next : Except Complaint Scan}
    {f : Scan → Except Complaint Scan} (h : s.Gives is next) (hf : ∀ t, Gives t js (f t)) :
    s.Gives (is ++ js) (next.bind f) where
  settle_next := by
    have hf' : (fun t => (f t).bind settle) = fun t => t.settle.bind (·.takeItems js) :=
      funext fun t => (hf t).settle_next
    calc (next.bind f).bind settle
        = next.bind fun t => t.settle.bind (·.takeItems js) := by rw [bind_bind, hf']
      _ = (s.settle.bind (·.takeItems is)).bind (·.takeItems js) := by
          rw [← bind_bind, h.settle_next]
      _ = s.settle.bind (·.takeItems (is ++ js)) := by
          simp only [bind_bind, Given.takeItems_append]
  wantsValue_next hwant t ht := by
    obtain ⟨t', hnext, ht'⟩ := exists_of_bind_eq_ok ht
    exact (hf t').wantsValue_next (h.wantsValue_next hwant t' hnext) t ht'

lemma gives_nil : s.Gives [] (.ok s) where
  settle_next := by
    change s.settle = s.settle.bind .ok
    cases s.settle <;> rfl
  wantsValue_next hwant t ht := by
    obtain rfl := Except.ok.inj ht
    exact hwant

/-- Every step first takes the option that waits. -/
lemma gives_of_settle {is : List Item} {f : Given → Except Complaint Scan}
    (hf : ∀ g, (f g).bind settle = g.takeItems is)
    (hwant : ∀ g t, f g = .ok t → t.wantsValue = false) : s.Gives is (s.settle.bind f) where
  settle_next := by
    rw [bind_bind, funext hf]
  wantsValue_next _ t ht := by
    obtain ⟨g, -, hg⟩ := exists_of_bind_eq_ok ht
    exact hwant g t hg

/-- An item that is taken at once leaves nothing that waits. -/
lemma gives_takeItem (i : Item) :
    s.Gives [i] (s.settle.bind fun g => (g.takeItem i).map fun g => ⟨g, none⟩) := by
  apply gives_of_settle
  · intro g
    rw [Given.takeItems_singleton]
    cases g.takeItem i <;> rfl
  · intro g t ht
    obtain ⟨g', -, rfl⟩ := exists_of_map_eq_ok ht
    rfl

lemma takeSwitch_verbose (byName : Bool) : s.takeSwitch c byName .verbose =
    s.settle.bind fun g => (g.takeItem .flag).map fun g => ⟨g, none⟩ := by
  simp only [takeSwitch]
  cases s.settle <;> rfl

lemma takeValue_some (v : Octets) : s.takeValue o (some v) =
    s.settle.bind fun g => (g.takeItem (.option o v)).map fun g => ⟨g, none⟩ := by
  simp only [takeValue]
  cases s.settle <;> rfl

lemma takeValue_none :
    s.takeValue o none = s.settle.bind fun g => .ok ⟨g, some (o, none)⟩ := by
  simp only [takeValue]
  cases s.settle <;> rfl

/-- An option that waits with its value is taken by the next step. -/
lemma gives_waiting (o : ValueOption) (v : Octets) :
    s.Gives [.option o v] (s.settle.bind fun g => .ok ⟨g, some (o, some v)⟩) := by
  apply gives_of_settle
  · intro g
    rw [Given.takeItems_singleton]
    rfl
  · intro g t ht
    obtain rfl := Except.ok.inj ht
    rfl

/-- The letter `v` is a flag. -/
lemma takeLetters_verbose (bs : Octets) : s.takeLetters c ('v'.toUInt8 :: bs) =
    (s.takeSwitch c false .verbose).bind fun t => t.takeLetters c bs := by
  have hletter : c.ofLetter? (Char.ofNat 'v'.toUInt8.toNat) = some (.switch .verbose) :=
    c.ofLetter?_verbose
  have hascii : 'v'.toUInt8 < 0x80 := by decide
  simp only [takeLetters, if_pos hascii, hletter]
  cases s.takeSwitch c false .verbose <;> rfl

/-- Letters behind a number of flags are taken after the flags. -/
lemma exists_takeLetters_flags (n : Nat) : ∃ next, s.Gives (List.replicate n .flag) next ∧
    ∀ bs, s.takeLetters c (List.replicate n 'v'.toUInt8 ++ bs) =
      next.bind fun t => t.takeLetters c bs := by
  induction n with
  | zero => exact ⟨.ok s, s.gives_nil, fun bs => rfl⟩
  | succ n ih =>
      obtain ⟨next, hnext, hread⟩ := ih
      refine ⟨next.bind fun t => t.takeSwitch c false .verbose, ?_, ?_⟩
      · rw [List.replicate_succ']
        exact hnext.bind fun t => by
          rw [takeSwitch_verbose]
          exact t.gives_takeItem .flag
      · intro bs
        rw [List.replicate_succ', List.append_assoc, List.singleton_append, hread, bind_bind]
        simp only [takeLetters_verbose]

/-- Letters stand behind one hyphen. -/
lemma takeDashed_letters {bs : Octets} (hne : bs ≠ []) (h : bs.head? ≠ some '-'.toUInt8) :
    s.takeDashed c ('-'.toUInt8 :: bs) = s.takeLetters c bs := by
  obtain ⟨b, ds, rfl⟩ := List.exists_cons_of_ne_nil hne
  rw [List.head?_cons, Ne, Option.some.injEq] at h
  simp only [takeDashed, List.drop_one, List.tail_cons, if_neg h]

/-- Flags and the letter behind them do not begin with a hyphen. -/
lemma head?_letters (n : Nat) (bs : Octets) :
    (List.replicate n 'v'.toUInt8 ++ 'p'.toUInt8 :: bs).head? ≠ some '-'.toUInt8 := by
  cases n with
  | zero => exact (by decide : some 'p'.toUInt8 ≠ some '-'.toUInt8)
  | succ n => exact (by decide : some 'v'.toUInt8 ≠ some '-'.toUInt8)

/-- A handle is read as the flags in it, and then as its option. -/
lemma exists_takeDashed_handle {n : Nat} {h : Octets} (hh : c.Handle o n h) :
    ∃ next, s.Gives (List.replicate n .flag) next ∧
      s.takeDashed c h = next.bind (fun t => t.takeValue o none) ∧
      ∀ v, s.takeDashed c (h ++ '='.toUInt8 :: v) =
        next.bind fun t => t.takeValue o (some v) := by
  cases hh with
  | long ho =>
      exact ⟨.ok s, s.gives_nil, s.takeName_eq ho, fun v => s.takeName_attached ho v⟩
  | letter n ho hl =>
      obtain ⟨rfl, rfl⟩ := letter_eq hl
      obtain ⟨next, hnext, hread⟩ := s.exists_takeLetters_flags (c := c) n
      -- behind the letter stands nothing, or the value with its equals sign
      have hletters : ∀ bs, s.takeDashed c
          ('-'.toUInt8 :: (List.replicate n 'v'.toUInt8 ++ 'p'.toUInt8 :: bs)) =
            next.bind fun t => t.takeValue .port (attached? bs) := by
        intro bs
        rw [takeDashed_letters _ (by simp) (head?_letters n bs), hread]
        simp only [takeLetters_eq _ ho]
      refine ⟨next, hnext, hletters [], ?_⟩
      intro v
      rw [List.cons_append, List.append_assoc]
      exact hletters ('='.toUInt8 :: v)

/-- An argument that begins with a handle is read for options. -/
lemma run_handle {n : Nat} {h : Octets} (hh : c.Handle o n h) (v : Octets)
    (rest : List Octets) :
    s.run c ((h ++ v) :: rest) = (s.takeDashed c (h ++ v)).bind fun t => t.run c rest := by
  cases hh with
  | long ho =>
      refine s.run_dashed (List.cons_ne_nil _ _) ?_ rest
      intro heq
      exact o.name_ne_nil (List.append_eq_nil_iff.1 (List.cons.inj heq).2).1
  | letter n ho hl =>
      obtain ⟨rfl, rfl⟩ := letter_eq hl
      have hbs : List.replicate n 'v'.toUInt8 ++ ['p'.toUInt8] ++ v =
          List.replicate n 'v'.toUInt8 ++ 'p'.toUInt8 :: v := by simp
      rw [List.cons_append, hbs]
      refine s.run_dashed (by simp) ?_ rest
      intro heq
      exact head?_letters n v (by rw [heq]; rfl)

/-- What a piece spells is taken. -/
lemma exists_reads_piece {is : List Item} {part : List Octets} (hpart : c.Piece is part) :
    ∃ next, s.Gives is next ∧
      ∀ rest, s.run c (part ++ rest) = next.bind fun t => t.run c rest := by
  cases hpart with
  | verbose =>
      refine ⟨s.takeSwitch c true .verbose, ?_, ?_⟩
      · rw [takeSwitch_verbose]
        exact s.gives_takeItem .flag
      · intro rest
        have hread : s.takeName c (Octets.ofString Switch.verbose.name) =
            s.takeSwitch c true .verbose := by
          have hcut : cut '='.toUInt8 (Octets.ofString Switch.verbose.name) =
              (Octets.ofString Switch.verbose.name, none) := cut_of_not_mem (by decide)
          simp only [takeName, hcut, c.ofName?_verbose]
        rw [List.singleton_append, run_dashed _ (List.cons_ne_nil _ _) (by decide), ← hread]
        rfl
  | flags n =>
      obtain ⟨next, hnext, hread⟩ := s.exists_takeLetters_flags (c := c) (n + 1)
      refine ⟨next, hnext, ?_⟩
      intro rest
      have hhead : (List.replicate (n + 1) 'v'.toUInt8).head? ≠ some '-'.toUInt8 :=
        (by decide : some 'v'.toUInt8 ≠ some '-'.toUInt8)
      have hletters : s.takeLetters c (List.replicate (n + 1) 'v'.toUInt8) = next := by
        have h := hread []
        rw [List.append_nil] at h
        rw [h]
        cases next <;> rfl
      rw [List.singleton_append, run_dashed _ (by simp) (fun h => hhead (by rw [h]; rfl)),
        takeDashed_letters _ (by simp) hhead, hletters]
  | @attached o n h v hh =>
      obtain ⟨next, hnext, -, hread⟩ := s.exists_takeDashed_handle hh
      refine ⟨next.bind fun t => t.takeValue o (some v), hnext.bind fun t => ?_, ?_⟩
      · rw [takeValue_some]
        exact t.gives_takeItem _
      · intro rest
        rw [List.singleton_append, run_handle _ hh, hread]
  | @joined o l n b v ho hl hb =>
      obtain ⟨rfl, rfl⟩ := letter_eq hl
      obtain ⟨next, hnext, hread⟩ := s.exists_takeLetters_flags (c := c) n
      refine ⟨next.bind fun t => t.takeValue .port (some (b :: v)), hnext.bind fun t => ?_, ?_⟩
      · rw [takeValue_some]
        exact t.gives_takeItem _
      · intro rest
        rw [List.singleton_append, run_dashed _ (by simp)
          (fun h => head?_letters n _ (by rw [h]; rfl)),
          takeDashed_letters _ (by simp) (head?_letters n _), hread]
        simp only [takeLetters_eq _ ho, attached?, if_neg hb]
  | @apart o n h v hh hv =>
      obtain ⟨next, hnext, hread, -⟩ := s.exists_takeDashed_handle hh
      refine ⟨next.bind fun t => t.settle.bind fun g => .ok ⟨g, some (o, some v)⟩,
        hnext.bind fun t => t.gives_waiting o v, ?_⟩
      intro rest
      have hrun := s.run_handle hh [] (v :: rest)
      rw [List.append_nil] at hrun
      have hwait : ∀ g : Given,
          (Except.ok (⟨g, some (o, none)⟩ : Scan)).bind (fun t => t.run c (v :: rest)) =
            (Except.ok (⟨g, some (o, some v)⟩ : Scan)).bind fun t => t.run c rest :=
        fun g => run_waiting hv g rest
      rw [List.cons_append, List.singleton_append, hrun, hread]
      simp only [bind_bind, takeValue_none, hwait]

/-- What has been written is taken item by item. -/
theorem exists_reads {is : List Item} {args : List Octets} (h : c.Written is args) :
    ∃ next, s.Gives is next ∧
      ∀ rest, s.run c (args ++ rest) = next.bind fun t => t.run c rest := by
  induction h generalizing s with
  | nil => exact ⟨.ok s, s.gives_nil, fun rest => rfl⟩
  | @cons is js part args hpart hargs ih =>
      obtain ⟨next, hnext, hread⟩ := s.exists_reads_piece hpart
      choose last hlast hreadLast using ih
      refine ⟨next.bind last, hnext.bind hlast, ?_⟩
      intro rest
      simp only [List.append_assoc, hread, hreadLast, bind_bind]

/-- The word `link` ends the options of the main command. -/
lemma run_linkWord {t : Scan} (ht : t.wantsValue = false) (rest : List Octets) :
    t.run .serve (Octets.ofString Command.linkWord :: rest) = .ok (t, some rest) := by
  have hne : Octets.ofString Command.linkWord ≠ Octets.ofString Command.helpWord := by
    decide
  rw [run.eq_def]
  simp only [ht, hne, Bool.not_false, and_false, and_self, if_false, if_true]

/-- At the end `--` is passed over. -/
lemma run_dashes : s.run c [Octets.ofString "--"] = .ok (s, none) := by
  have hhelp : Octets.ofString "--" ≠ Octets.ofString Command.helpWord := by decide
  have hlink : Octets.ofString "--" ≠ Octets.ofString Command.linkWord := by decide +kernel
  rw [run.eq_def]
  simp only [hhelp, hlink, and_false, if_false, if_true]

/-- The arguments of a command are taken item by item, up to the word for another command. -/
theorem exists_run_line {is : List Item} {rest : Option (List Octets)} {args : List Octets}
    (h : c.Line is rest args) (hwant : s.wantsValue = false) :
    ∃ next, s.Gives is next ∧ s.run c args = next.map fun t => (t, rest) := by
  cases h with
  | @plain args h =>
      obtain ⟨next, hnext, hread⟩ := s.exists_reads h
      refine ⟨next, hnext, ?_⟩
      rw [← List.append_nil args, hread]
      cases next <;> rfl
  | closed h =>
      obtain ⟨next, hnext, hread⟩ := s.exists_reads h
      refine ⟨next, hnext, ?_⟩
      simp only [hread, run_dashes]
      cases next <;> rfl
  | link hc h =>
      subst hc
      obtain ⟨next, hnext, hread⟩ := s.exists_reads h
      refine ⟨next, hnext, ?_⟩
      rw [hread]
      cases next with
      | error e => rfl
      | ok t => exact run_linkWord (hnext.wantsValue_next hwant t rfl) _

end Scan

end ResultPages
