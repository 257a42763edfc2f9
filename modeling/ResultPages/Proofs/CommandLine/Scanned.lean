/-
What is read has been written.

An argument that is read without a complaint is a piece of the grammar, or the handle of an
option whose value stands in the next argument (`IsTaken`).  So all arguments that are read
have been written in the grammar (`exists_line_of_run`), which with the other direction makes the
grammar exact.
-/
import ResultPages.Proofs.CommandLine.Grammar
import ResultPages.Proofs.Text.Ascii

namespace ResultPages

namespace Command

lemma of_ofName? {c : Command} {name : Octets} {o : Opt} (h : c.ofName? name = some o) :
    o ∈ c.options ∧ name = Octets.ofString o.name := by
  rw [ofName?] at h
  have hname := List.find?_some h
  exact ⟨List.mem_of_find?_eq_some h, (of_decide_eq_true hname).symm⟩

lemma of_ofLetter? {c : Command} {l : Char} {o : Opt} (h : c.ofLetter? l = some o) :
    o ∈ c.options ∧ o.letter? = some l := by
  rw [ofLetter?] at h
  have hletter := List.find?_some h
  exact ⟨List.mem_of_find?_eq_some h, of_decide_eq_true hletter⟩

end Command

namespace Scan

/-! ### One argument -/

variable {c : Command} {o : ValueOption} {s t : Scan}

lemma of_takeSwitch {byName : Bool} {w : Switch} (h : s.takeSwitch c byName w = .ok t) :
    w = .verbose ∧ t.wantsValue = false ∧ ∃ g, s.settle = .ok g := by
  cases w with
  | verbose =>
      rw [takeSwitch_verbose] at h
      obtain ⟨g, hg, hmap⟩ := exists_of_bind_eq_ok h
      obtain ⟨g', -, rfl⟩ := exists_of_map_eq_ok hmap
      exact ⟨rfl, rfl, g, hg⟩
  | help | version =>
      simp only [takeSwitch] at h
      split at h <;> cases h

lemma of_takeValue_none (h : s.takeValue o none = .ok t) :
    ∃ g, s.settle = .ok g ∧ t = ⟨g, some (o, none)⟩ := by
  rw [takeValue_none] at h
  obtain ⟨g, hg, ht⟩ := exists_of_bind_eq_ok h
  exact ⟨g, hg, (Except.ok.inj ht).symm⟩

lemma of_takeValue_some {v : Octets} (h : s.takeValue o (some v) = .ok t) :
    (∃ g, s.settle = .ok g) ∧ t.wantsValue = false := by
  rw [takeValue_some] at h
  obtain ⟨g, hg, hmap⟩ := exists_of_bind_eq_ok h
  obtain ⟨g', -, rfl⟩ := exists_of_map_eq_ok hmap
  exact ⟨⟨g, hg⟩, rfl⟩

/-- What an argument that has been taken was: a whole piece, or the handle of an option, which
waits for its value then. -/
def IsTaken (c : Command) (a : Octets) (t : Scan) : Prop :=
  (∃ is, c.Piece is [a] ∧ t.wantsValue = false) ∨
    ∃ o n g, c.Handle o n a ∧ t = ⟨g, some (o, none)⟩

lemma isTaken_of_takeName {bs : Octets} (h : s.takeName c bs = .ok t) :
    IsTaken c ('-'.toUInt8 :: '-'.toUInt8 :: bs) t ∧ ∃ g, s.settle = .ok g := by
  obtain ⟨-, hbs⟩ := cut_spec '='.toUInt8 bs
  simp only [takeName] at h
  generalize cut '='.toUInt8 bs = parts at h hbs
  obtain ⟨name, attached⟩ := parts
  cases hname : c.ofName? name with
  | none =>
      rw [hname] at h
      cases h
  | some opt =>
      obtain ⟨hmem, rfl⟩ := Command.of_ofName? hname
      rw [hname] at h
      cases opt with
      | switch w =>
          cases attached with
          | some v => cases h
          | none =>
              obtain ⟨rfl, hwant, hsettle⟩ := of_takeSwitch h
              obtain rfl : bs = Octets.ofString Switch.verbose.name :=
                hbs.trans (List.append_nil _)
              exact ⟨Or.inl ⟨_, .verbose, hwant⟩, hsettle⟩
      | value o =>
          cases attached with
          | none =>
              obtain ⟨g, hsettle, rfl⟩ := of_takeValue_none h
              obtain rfl : bs = Octets.ofString o.name := hbs.trans (List.append_nil _)
              exact ⟨Or.inr ⟨o, 0, g, .long hmem, rfl⟩, g, hsettle⟩
          | some v =>
              obtain ⟨hsettle, hwant⟩ := of_takeValue_some h
              obtain rfl : bs = Octets.ofString o.name ++ '='.toUInt8 :: v := hbs
              exact ⟨Or.inl ⟨_, .attached v (.long hmem), hwant⟩, hsettle⟩

/-- A letter that takes a value, behind a number of flags. -/
lemma isTaken_of_takeValue {l : Char} (ho : Opt.value o ∈ c.options)
    (hl : (Opt.value o).letter? = some l) (n : Nat) {bs : Octets}
    (h : s.takeValue o (attached? bs) = .ok t) :
    IsTaken c ('-'.toUInt8 :: (List.replicate n 'v'.toUInt8 ++ l.toUInt8 :: bs)) t ∧
      ∃ g, s.settle = .ok g := by
  cases bs with
  | nil =>
      obtain ⟨g, hsettle, rfl⟩ := of_takeValue_none h
      exact ⟨Or.inr ⟨o, n, g, .letter n ho hl, rfl⟩, g, hsettle⟩
  | cons b v =>
      obtain ⟨hsettle, hwant⟩ := of_takeValue_some h
      by_cases hb : b = '='.toUInt8
      · subst hb
        have hpiece := Command.Piece.attached v (.letter n ho hl)
        rw [List.cons_append, List.append_assoc] at hpiece
        exact ⟨Or.inl ⟨_, hpiece, hwant⟩, hsettle⟩
      · exact ⟨Or.inl ⟨_, .joined n v ho hl hb, hwant⟩, hsettle⟩

/-- Letters that have been taken, behind a number of flags. -/
lemma isTaken_of_takeLetters {bs : Octets} (h : s.takeLetters c bs = .ok t) (n : Nat)
    (hne : bs ≠ [] ∨ n ≠ 0 ∧ s.wantsValue = false) :
    IsTaken c ('-'.toUInt8 :: (List.replicate n 'v'.toUInt8 ++ bs)) t ∧
      (bs ≠ [] → ∃ g, s.settle = .ok g) := by
  induction bs generalizing s n with
  | nil =>
      obtain rfl := Except.ok.inj h
      obtain hne | ⟨hn, hwant⟩ := hne
      · exact absurd rfl hne
      · obtain ⟨m, rfl⟩ := Nat.exists_eq_succ_of_ne_zero hn
        rw [List.append_nil]
        exact ⟨Or.inl ⟨_, .flags m, hwant⟩, fun hne => absurd rfl hne⟩
  | cons b bs ih =>
      by_cases hascii : b < 0x80
      · cases hletter : c.ofLetter? (Char.ofNat b.toNat) with
        | none =>
            simp only [takeLetters, if_pos hascii, hletter] at h
            cases h
        | some opt =>
            obtain ⟨hmem, hl⟩ := Command.of_ofLetter? hletter
            simp only [takeLetters, if_pos hascii, hletter] at h
            cases opt with
            | switch w =>
                cases hswitch : s.takeSwitch c false w with
                | error e =>
                    simp only [hswitch] at h
                    cases h
                | ok s' =>
                    simp only [hswitch] at h
                    obtain ⟨rfl, hwant, hsettle⟩ := of_takeSwitch hswitch
                    -- one flag more, and the letters behind it
                    have hb : b = 'v'.toUInt8 := by
                      rw [← toUInt8_ofNat_toNat hascii, ← Option.some.inj hl]
                      rfl
                    subst hb
                    have hmore := (ih h (n + 1) (Or.inr ⟨n.succ_ne_zero, hwant⟩)).1
                    rw [List.replicate_succ', List.append_assoc, List.singleton_append] at hmore
                    exact ⟨hmore, fun _ => hsettle⟩
            | value o =>
                obtain ⟨htaken, hsettle⟩ := isTaken_of_takeValue hmem hl n h
                rw [toUInt8_ofNat_toNat hascii] at htaken
                exact ⟨htaken, fun _ => hsettle⟩
      · simp only [takeLetters, if_neg hascii] at h
        cases h

lemma isTaken_of_takeDashed {a : Octets} (ha : isDashed a = true)
    (h : s.takeDashed c a = .ok t) : IsTaken c a t ∧ ∃ g, s.settle = .ok g := by
  match a with
  | [] | [_] => cases ha
  | b :: d :: bs =>
      obtain rfl : b = '-'.toUInt8 := of_decide_eq_true ha
      simp only [takeDashed, List.drop_one, List.tail_cons] at h
      split at h
      · next hd =>
        subst hd
        exact isTaken_of_takeName h
      · next hd =>
        obtain ⟨htaken, hsettle⟩ := isTaken_of_takeLetters h 0 (Or.inl (List.cons_ne_nil _ _))
        exact ⟨htaken, hsettle (List.cons_ne_nil _ _)⟩

/-! ### All arguments -/

/-- An option that waits has its value in the next argument. -/
lemma of_run_waiting {g g' : Given} {args : List Octets} {rest : Option (List Octets)}
    (hrun : run c ⟨g, some (o, none)⟩ args = .ok (t, rest)) (ht : t.settle = .ok g') :
    ∃ v as, args = v :: as ∧ isDashed v = false ∧
      run c ⟨g, some (o, some v)⟩ as = .ok (t, rest) := by
  have hunsettled : ∀ g', settle ⟨g, some (o, none)⟩ ≠ .ok g' := fun g' h => nomatch h
  cases args with
  | nil =>
      obtain ⟨rfl, -⟩ := Prod.mk.inj (Except.ok.inj hrun)
      exact absurd ht (hunsettled g')
  | cons v as =>
      have hwant : wantsValue ⟨g, some (o, none)⟩ = true := rfl
      cases hv : isDashed v with
      | false =>
          rw [run_waiting hv] at hrun
          exact ⟨v, as, rfl, hv, hrun⟩
      | true =>
          rw [run.eq_def] at hrun
          simp only [hwant, hv, Bool.not_true, Bool.false_eq_true, false_and, and_false, if_false,
            if_true] at hrun
          split at hrun
          · cases as with
            | nil =>
                obtain ⟨rfl, -⟩ := Prod.mk.inj (Except.ok.inj hrun)
                exact absurd ht (hunsettled g')
            | cons b as => cases hrun
          · split at hrun
            · cases hrun
            · next t' htaken =>
              obtain ⟨-, g'', hsettle⟩ := isTaken_of_takeDashed hv htaken
              exact absurd hsettle (hunsettled g'')

end Scan

namespace Command

lemma Line.cons {c : Command} {is js : List Item} {part args : List Octets}
    {rest : Option (List Octets)} (hpart : c.Piece is part) (h : c.Line js rest args) :
    c.Line (is ++ js) rest (part ++ args) := by
  cases h with
  | plain h => exact .plain (.cons hpart h)
  | closed h =>
      rw [← List.append_assoc]
      exact .closed (.cons hpart h)
  | link hc h =>
      rw [← List.append_assoc]
      exact .link hc (.cons hpart h)

end Command

namespace Scan

variable {c : Command}

lemma fill?_eq_none {s : Scan} (hwant : s.wantsValue = false) (a : Octets) :
    s.fill? a = none := by
  obtain ⟨g, _ | ⟨o, _ | v⟩⟩ := s
  · rfl
  · cases hwant
  · rfl

/-- Arguments that are read without a complaint have been written in the grammar. -/
theorem exists_line_of_run {s t : Scan} {args : List Octets} {rest : Option (List Octets)}
    (hwant : s.wantsValue = false) (hrun : s.run c args = .ok (t, rest)) {g' : Given}
    (ht : t.settle = .ok g') : ∃ is, c.Line is rest args := by
  match args with
  | [] =>
      obtain ⟨-, rfl⟩ := Prod.mk.inj (Except.ok.inj hrun)
      exact ⟨[], .plain .nil⟩
  | a :: as =>
      rw [run.eq_def] at hrun
      simp only [hwant, Bool.not_false, true_and] at hrun
      split at hrun
      · cases hrun
      split at hrun
      · next hlink =>
        obtain ⟨-, rfl⟩ := Prod.mk.inj (Except.ok.inj hrun)
        obtain ⟨hc, rfl⟩ := hlink
        exact ⟨[], .link hc .nil⟩
      split at hrun
      · next hdashes =>
        subst hdashes
        cases as with
        | nil =>
            obtain ⟨-, rfl⟩ := Prod.mk.inj (Except.ok.inj hrun)
            exact ⟨[], .closed .nil⟩
        | cons b as => cases hrun
      split at hrun
      · next hdashed =>
        split at hrun
        · cases hrun
        · next t' htaken =>
          obtain ⟨⟨is, hpiece, hwant'⟩ | ⟨o, n, g, hhandle, rfl⟩, -⟩ :=
            isTaken_of_takeDashed hdashed htaken
          · obtain ⟨js, hline⟩ := exists_line_of_run hwant' hrun ht
            exact ⟨_, hline.cons hpiece⟩
          · -- the value stands in the next argument
            obtain ⟨v, as, rfl, hv, hrun'⟩ := of_run_waiting hrun ht
            obtain ⟨js, hline⟩ := exists_line_of_run rfl hrun' ht
            exact ⟨_, hline.cons (.apart hhandle hv)⟩
      · rw [fill?_eq_none hwant] at hrun
        cases hrun
termination_by args.length

end Scan

end ResultPages
