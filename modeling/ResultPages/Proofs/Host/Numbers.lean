/-
Numbers in a host: parts of addresses and ports.

A number is printed by `Nat.toDigits`, to base ten or sixteen.  Reading undoes printing
(`digits?_toDigits`), and only zero is printed with a zero in front, so no printed number has
superfluous ones.  The other way round, what is read as a number is that number as it is printed,
up to letter case and zeros in front (`exists_of_digits?`).
-/
import Mathlib.Data.List.Induction
import ResultPages.Proofs.Host.Plain

namespace ResultPages

/-! ### Digits -/

lemma isPlainChar_of_isDigit {c : Char} (h : c.isDigit) : isPlainChar c := by
  have hrange : ('0' ≤ c && c ≤ '9') = true := h
  rw [isPlainChar, hrange]
  rfl

/-! ### Printed numbers -/

lemma exists_digitChar_of_mem_toDigits {b : Nat} (hb : 1 < b) {n : Nat} {c : Char}
    (h : c ∈ Nat.toDigits b n) : ∃ m < b, c = Nat.digitChar m := by
  rw [Nat.toDigits_eq_if hb] at h
  split at h
  · next hlt => exact ⟨n, hlt, List.mem_singleton.1 h⟩
  · rcases List.mem_append.1 h with h | h
    · exact exists_digitChar_of_mem_toDigits hb h
    · exact ⟨n % b, Nat.mod_lt _ (by omega), List.mem_singleton.1 h⟩
termination_by n
decreasing_by exact Nat.div_lt_self (by omega) hb

lemma head?_toDigits_ne {b n : Nat} (hb : 1 < b) (hn : 0 < n) :
    (Nat.toDigits b n).head? ≠ some '0' := by
  rw [Nat.toDigits_eq_if hb]
  split
  · rw [List.head?_cons, Ne, Option.some.injEq, Nat.digitChar_eq_zero]
    omega
  · next hle =>
    have hpos : 0 < n / b := Nat.div_pos (by omega) (by omega)
    have ih := head?_toDigits_ne hb hpos
    rw [List.head?_append]
    cases hhead : (Nat.toDigits b (n / b)).head? with
    | none => exact absurd (List.head?_eq_none_iff.1 hhead) Nat.toDigits_ne_nil
    | some c => rwa [hhead] at ih
termination_by n
decreasing_by exact Nat.div_lt_self hn hb

namespace Ipv4

lemma digit?_digitChar {n : Nat} (h : n < 16) : digit? (Nat.digitChar n) = some n := by
  have hall : ∀ n < 16, digit? (Nat.digitChar n) = some n := by decide
  exact hall n h

lemma digits?_concat (b : Nat) (cs : List Char) (c : Char) :
    digits? b (cs ++ [c]) = (digits? b cs).bind fun n =>
      (digit? c).bind fun d => if d < b then some (n * b + d) else none := by
  rw [digits?, List.foldlM_append]
  simp [digits?]

/-- Reading undoes printing. -/
theorem digits?_toDigits {b : Nat} (hb : 1 < b) (hb' : b ≤ 16) (n : Nat) :
    digits? b (Nat.toDigits b n) = some n := by
  rw [Nat.toDigits_eq_if hb]
  split
  · next hlt =>
    rw [← List.nil_append [n.digitChar], digits?_concat, digit?_digitChar (by omega)]
    simp [digits?, hlt]
  · have hmod : n % b < b := Nat.mod_lt _ (by omega)
    rw [digits?_concat, digits?_toDigits hb hb', digit?_digitChar (by omega)]
    simp only [Option.bind_some, if_pos hmod, Nat.div_add_mod']
termination_by n
decreasing_by exact Nat.div_lt_self (by omega) hb

/-- A decimal number is read as one part of an address. -/
lemma part?_toDigits (n : Nat) : part? (Nat.toDigits 10 n) = some n := by
  rcases Nat.eq_zero_or_pos n with rfl | hpos
  · rfl
  · have hhead := head?_toDigits_ne (by decide : 1 < 10) hpos
    have hread := digits?_toDigits (by decide : 1 < 10) (by decide) n
    rw [part?.eq_def]
    split
    · next hnil => exact absurd hnil Nat.toDigits_ne_nil
    -- without a zero in front it is decimal
    all_goals simp_all

/-! ### Hexadecimal digits -/

lemma digit?_toLower (c : Char) : digit? c.toLower = digit? c := by
  by_cases hc : c.toNat < 128
  · exact forall_ascii (P := fun c => digit? c.toLower = digit? c) (by decide) hc
  · rw [toLower_eq_self_iff.2 (by omega)]

lemma digits?_map_toLower (b : Nat) (cs : List Char) :
    digits? b (cs.map Char.toLower) = digits? b cs := by
  simp only [digits?, List.foldlM_map, digit?_toLower]

/-- Leading zeros count for nothing. -/
lemma digits?_replicate_append {b : Nat} (hb : 0 < b) (k : Nat) (cs : List Char) :
    digits? b (List.replicate k '0' ++ cs) = digits? b cs := by
  induction k with
  | zero => rfl
  | succ k ih =>
      have hzero : digit? '0' = some 0 := by decide
      rw [← ih, List.replicate_succ, List.cons_append, digits?, List.foldlM_cons, hzero,
        Option.bind_some, if_pos hb, Nat.zero_mul]
      rfl

/-- What is read as a number is made of digits below the base. -/
lemma exists_of_mem_digits? {b : Nat} {cs : List Char} {n : Nat} (h : digits? b cs = some n)
    {c : Char} (hc : c ∈ cs) : ∃ d < b, digit? c = some d := by
  induction cs using List.reverseRecOn generalizing n with
  | nil => exact absurd hc List.not_mem_nil
  | append_singleton cs e ih =>
      rw [digits?_concat] at h
      obtain ⟨m, hm, h⟩ := Option.bind_eq_some_iff.1 h
      obtain ⟨d, hd, h⟩ := Option.bind_eq_some_iff.1 h
      rcases List.mem_append.1 hc with hc | hc
      · exact ih hm hc
      · split at h
        · next hlt => exact ⟨d, hlt, by rw [List.mem_singleton.1 hc, hd]⟩
        · cases h

/-- What the digits are, and which of them are decimal. -/
lemma digit?_cases {c : Char} {d : Nat} (h : digit? c = some d) :
    c.isDigit ∨ (('a' ≤ c ∧ c ≤ 'f') ∨ 'A' ≤ c ∧ c ≤ 'F') ∧ 10 ≤ d := by
  rw [digit?] at h
  split at h
  · next hc =>
    rw [Char.isDigit, Bool.and_eq_true]
    exact Or.inl ⟨decide_eq_true hc.1, decide_eq_true hc.2⟩
  · split at h
    · next hc =>
      obtain rfl := Option.some.inj h
      have hge := UInt32.le_iff_toNat_le.1 hc.1
      change 97 ≤ c.toNat at hge
      exact Or.inr ⟨Or.inl hc, by omega⟩
    · split at h
      · next hc =>
        obtain rfl := Option.some.inj h
        have hge := UInt32.le_iff_toNat_le.1 hc.1
        change 65 ≤ c.toNat at hge
        exact Or.inr ⟨Or.inr hc, by omega⟩
      · cases h

lemma isDigit_of_digit? {c : Char} {d : Nat} (h : digit? c = some d) (hd : d < 10) :
    c.isDigit :=
  (digit?_cases h).resolve_right fun hge => Nat.not_lt.2 hge.2 hd

lemma isHexDigit_of_digit? {c : Char} {d : Nat} (h : digit? c = some d) : c.isHexDigit := by
  simp only [Char.isHexDigit, Bool.or_eq_true, Bool.and_eq_true, decide_eq_true_eq]
  rcases digit?_cases h with h | ⟨h | h, -⟩
  · exact Or.inl (Or.inl h)
  · exact Or.inl (Or.inr h)
  · exact Or.inr h

lemma isPlainChar_of_digit? {c : Char} {d : Nat} (h : digit? c = some d) :
    isPlainChar c ∧ c ≠ '.' := by
  constructor
  · rcases digit?_cases h with h | ⟨h, -⟩
    · exact isPlainChar_of_isDigit h
    · simp only [isPlainChar, Bool.or_eq_true, Bool.and_eq_true, decide_eq_true_eq]
      rcases h with h | h
      · exact Or.inl (Or.inl (Or.inr ⟨h.1, Char.le_trans h.2 (by decide)⟩))
      · exact Or.inl (Or.inl (Or.inl (Or.inr ⟨h.1, Char.le_trans h.2 (by decide)⟩)))
  · rintro rfl
    rcases digit?_cases h with h | ⟨h | h, -⟩ <;> exact absurd h (by decide)

lemma toLower_of_digit? {c : Char} {d : Nat} (h : digit? c = some d) :
    c.toLower = Nat.digitChar d := by
  have hc : c.toNat < 128 := (toNat_of_isPlainChar (isPlainChar_of_digit? h).1).2
  have hall := forall_ascii (P := fun c => ∀ d ∈ digit? c, c.toLower = Nat.digitChar d)
    (by decide) hc
  exact hall d h

/-- What is read as a number is that number as it is printed, up to letter case and zeros in
front. -/
theorem exists_of_digits? {b : Nat} (hb : 1 < b) {cs : List Char} {n : Nat} (hne : cs ≠ [])
    (h : digits? b cs = some n) :
    ∃ k, cs.map Char.toLower = List.replicate k '0' ++ Nat.toDigits b n := by
  induction cs using List.reverseRecOn generalizing n with
  | nil => exact absurd rfl hne
  | append_singleton cs c ih =>
      rw [digits?_concat] at h
      obtain ⟨m, hm, h⟩ := Option.bind_eq_some_iff.1 h
      obtain ⟨d, hd, h⟩ := Option.bind_eq_some_iff.1 h
      split at h
      · next hlt =>
        obtain rfl := Option.some.inj h
        have hlast : [c].map Char.toLower = Nat.toDigits b d := by
          rw [Nat.toDigits_of_lt_base hlt, List.map_singleton, toLower_of_digit? hd]
        rcases eq_or_ne cs [] with rfl | hcs
        · obtain rfl : 0 = m := by simpa [digits?] using hm
          exact ⟨0, by simpa using hlast⟩
        · obtain ⟨k, hk⟩ := ih hcs hm
          rw [List.map_append, hk, hlast]
          rcases Nat.eq_zero_or_pos m with rfl | hpos
          · -- zeros so far are zeros in front of the digit
            refine ⟨k + 1, ?_⟩
            simp [List.replicate_succ']
          · refine ⟨k, ?_⟩
            rw [List.append_assoc, Nat.toDigits_append_toDigits hb hpos hlt, Nat.mul_comm]
      · cases h

end Ipv4

end ResultPages
