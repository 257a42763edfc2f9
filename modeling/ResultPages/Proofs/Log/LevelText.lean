/-
The texts that ask for a level of the log.

A text asks for a level by number or by name.  The number is one of eight bits that must be at
most five.  A larger one, also one that does not fit into eight bits, is looked for among the
names and not found there: a name begins with a letter, a number does not
(`not_isNatural_of_isSpelledAs`).  The names are compared in small forms, which lets no text in
that is not spelled in letters of ASCII.  `Value.verbosity_by_text` has all of this together with
the level at which the log then runs.
-/
import ResultPages.CommandLine.Value
import ResultPages.Proofs.Text.Number
import ResultPages.Proofs.Text.SmallForm

namespace ResultPages

namespace LogLevel

/-- A text is the name of a level, in letters of either case. -/
def IsSpelledAs (cs : List Char) (l : LogLevel) : Prop :=
  cs.map Char.toLower = l.name.toList

/-- A text asks for a verbosity: by a number up to five, leading zeros allowed, or by the name of
the level at that place. -/
inductive AsksFor (cs : List Char) : Nat → Prop
  | number {n : Nat} (digits : IsNatural cs n) (le : n ≤ 5) : AsksFor cs n
  | name (l : LogLevel) (spelled : IsSpelledAs cs l) : AsksFor cs l.verbosity

/-! ### Names -/

/-- Names are spelled in small letters other than k. -/
lemma of_mem_name (l : LogLevel) :
    ∀ c ∈ l.name.toList, (97 ≤ c.toNat ∧ c.toNat ≤ 122) ∧ c ≠ 'k' := by
  have hall : l.name.toList.all fun c => (97 ≤ c.toNat ∧ c.toNat ≤ 122) ∧ c ≠ 'k' := by
    cases l <;> rw [name, String.toList_ofList] <;> decide
  exact fun c hc => of_decide_eq_true (List.all_eq_true.1 hall c hc)

/-- No two levels have one name. -/
lemma name_injective {l l' : LogLevel} (h : l.name.toList = l'.name.toList) : l = l' := by
  cases l <;> cases l' <;> first
    | rfl
    | simp only [name] at h; exact absurd h (by decide)

lemma smallText_eq_name_iff {cs : List Char} {l : LogLevel} :
    smallText cs = l.name.toList ↔ IsSpelledAs cs l := by
  refine smallText_eq_iff (fun c hc => ?_) fun hk => (of_mem_name l 'k' hk).2 rfl
  have := (of_mem_name l c hc).1
  omega

/-- The name in a text is found. -/
lemma find?_name_eq_some_iff {cs : List Char} {l : LogLevel} :
    all.find? (·.name.toList = smallText cs) = some l ↔ IsSpelledAs cs l := by
  rw [← smallText_eq_name_iff]
  constructor
  · intro h
    have hname := List.find?_some h
    exact (of_decide_eq_true hname).symm
  · intro h
    rw [h]
    cases hfound : all.find? (·.name.toList = l.name.toList) with
    | none =>
        have hmem : l ∈ all := by cases l <;> decide
        exact absurd (decide_eq_true rfl) (List.find?_eq_none.1 hfound l hmem)
    | some l' =>
        have hname := List.find?_some hfound
        rw [name_injective (of_decide_eq_true hname)]

/-- A name in letters of either case is spelled in ASCII. -/
lemma IsSpelledAs.toNat_lt {cs : List Char} {l : LogLevel} (h : IsSpelledAs cs l) {c : Char}
    (hc : c ∈ cs) : c.toNat < 128 := by
  by_contra hge
  have hletter := of_mem_name l c.toLower (h ▸ List.mem_map_of_mem hc)
  rw [toLower_eq_self_iff.2 (by omega)] at hletter
  omega

/-- No name is a number. -/
lemma not_isNatural_of_isSpelledAs {cs : List Char} {l : LogLevel} (h : IsSpelledAs cs l)
    {n : Nat} : ¬ IsNatural cs n := by
  intro digits
  obtain ⟨c, rest, rfl⟩ := List.exists_cons_of_ne_nil digits.ne_nil
  have hletter := of_mem_name l c.toLower (h ▸ List.mem_map_of_mem List.mem_cons_self)
  rcases digits.of_mem List.mem_cons_self with hc | rfl
  · obtain ⟨-, hnine⟩ := Char.isDigit_iff_toNat.1 hc
    have hcode : '9'.toNat = 57 := rfl
    rw [toLower_of_isDigit hc] at hletter
    omega
  · exact absurd hletter (by decide)

/-! ### Reading -/

/-- What is read as a number. -/
lemma number_eq_some_iff {cs : List Char} {n : Nat} :
    (Number.natural 255 cs).toOption.filter (· ≤ 5) = some n ↔ IsNatural cs n ∧ n ≤ 5 := by
  have hread : (Number.natural 255 cs).toOption = some n ↔ IsNatural cs n ∧ n ≤ 255 := by
    rw [← Number.natural_eq_ok_iff]
    cases Number.natural 255 cs <;> simp [Except.toOption]
  rw [Option.filter_eq_some_iff, hread, decide_eq_true_eq]
  constructor
  · exact fun ⟨⟨digits, _⟩, hle⟩ => ⟨digits, hle⟩
  · exact fun ⟨digits, hle⟩ => ⟨⟨digits, by omega⟩, hle⟩

/-- A text is read as what it asks for. -/
theorem readVerbosity?_eq_some_iff {s : String} {n : Nat} :
    readVerbosity? s = some n ↔ AsksFor s.toList n := by
  rw [readVerbosity?]
  split
  · next m hm =>
    obtain ⟨digits, hle⟩ := number_eq_some_iff.1 hm
    constructor
    · rintro ⟨⟩
      exact .number digits hle
    · intro h
      cases h with
      | number digits' hle' => rw [← hm, number_eq_some_iff.2 ⟨digits', hle'⟩]
      | name l spelled => exact absurd digits (not_isNatural_of_isSpelledAs spelled)
  · next hnone =>
    rw [Option.map_eq_some_iff]
    constructor
    · rintro ⟨l, hl, rfl⟩
      exact .name l (find?_name_eq_some_iff.1 hl)
    · intro h
      cases h with
      | number digits hle =>
          rw [number_eq_some_iff.2 ⟨digits, hle⟩] at hnone
          cases hnone
      | name l spelled => exact ⟨l, find?_name_eq_some_iff.2 spelled, rfl⟩

/-- Only texts of ASCII ask for anything. -/
lemma AsksFor.toNat_lt {cs : List Char} {n : Nat} (h : AsksFor cs n) {c : Char} (hc : c ∈ cs) :
    c.toNat < 128 := by
  cases h with
  | number digits =>
      rcases digits.of_mem hc with hdigit | rfl
      · exact toNat_lt_of_isDigit hdigit
      · decide
  | name l spelled => exact spelled.toNat_lt hc

/-- A number asks for nothing but itself. -/
lemma AsksFor.le_of_isNatural {cs : List Char} {n m : Nat} (h : AsksFor cs n)
    (digits : IsNatural cs m) : m ≤ 5 := by
  cases h with
  | number digits' hle => exact digits.unique digits' ▸ hle
  | name l spelled => exact absurd digits (not_isNatural_of_isSpelledAs spelled)

end LogLevel

namespace Value

lemma verbosity_eq_ok_iff {s : String} {n : Nat} :
    verbosity s = .ok n ↔ LogLevel.AsksFor s.toList n := by
  rw [← LogLevel.readVerbosity?_eq_some_iff, verbosity]
  cases LogLevel.readVerbosity? s <;> simp

/-- What asks for nothing is refused. -/
lemma verbosity_eq_error {s : String} (h : ∀ n, ¬ LogLevel.AsksFor s.toList n) :
    verbosity s = .error .invalidLevel := by
  cases hread : LogLevel.readVerbosity? s with
  | none => rw [verbosity, hread]
  | some n => exact absurd (LogLevel.readVerbosity?_eq_some_iff.1 hread) (h n)

/-- A text is accepted exactly if it asks for a verbosity, which is then the one it gives.  A text
that is not spelled in ASCII is refused, and so is a number beyond five, of whatever length.  The
log runs at the level that was named. -/
theorem verbosity_by_text (s : String) :
    (∀ n, verbosity s = .ok n ↔ LogLevel.AsksFor s.toList n) ∧
      ((∀ n, ¬ LogLevel.AsksFor s.toList n) → verbosity s = .error .invalidLevel) ∧
      ((∃ c ∈ s.toList, 128 ≤ c.toNat) → verbosity s = .error .invalidLevel) ∧
      (∀ n, IsNatural s.toList n → 5 < n → verbosity s = .error .invalidLevel) ∧
      ∀ l, LogLevel.IsSpelledAs s.toList l →
        ∃ n, verbosity s = .ok n ∧ LogLevel.ofVerbosity n = l := by
  refine ⟨fun _ => verbosity_eq_ok_iff, verbosity_eq_error, ?outside, ?large, ?level⟩
  case outside =>
    rintro ⟨c, hc, hge⟩
    refine verbosity_eq_error fun n h => ?_
    exact absurd (h.toNat_lt hc) (Nat.not_lt.2 hge)
  case large =>
    intro m digits hlt
    refine verbosity_eq_error fun n h => ?_
    exact absurd (h.le_of_isNatural digits) (Nat.not_le.2 hlt)
  case level =>
    intro l spelled
    exact ⟨l.verbosity, verbosity_eq_ok_iff.2 (.name l spelled), l.ofVerbosity_verbosity⟩

/-- The number 261 is no 5, although it leaves it in eight bits. -/
example : verbosity "0261" = .error .invalidLevel := by decide

end Value

end ResultPages
