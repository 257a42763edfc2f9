/-
Hosts with a port behind them.

A port is read as the number that its decimal digits spell, whatever zeros stand in front.
Numbers above 65535 are refused, and 443 counts as no port.  The reader cuts the port off at the
first colon outside brackets; for a host without colons, and for one in brackets, that is the
colon behind the host, so host and port are read apart (`Authority.parse_append`).
-/
import ResultPages.Proofs.Host.Characters
import ResultPages.Proofs.Host.Numbers

namespace ResultPages

/-- A port in decimal digits, leading zeros allowed. -/
structure PortText where
  /-- The digits. -/
  digits : List Char
  ne_nil : digits ≠ []
  isDigit : ∀ c ∈ digits, c.isDigit

namespace PortText

/-- The number that the digits spell. -/
def value (p : PortText) : Nat := Nat.ofDigitChars 10 p.digits 0

/-- The port of a number, without leading zeros. -/
def ofNat (n : Nat) : PortText :=
  ⟨Nat.toDigits 10 n, Nat.toDigits_ne_nil, fun _ hc =>
    Nat.isDigit_of_mem_toDigits (by decide) (by decide) hc⟩

@[simp] lemma value_ofNat (n : Nat) : (ofNat n).value = n := Nat.ofDigitChars_ten_toDigits

/-- What is written behind a host, with the colon. -/
def behind (p : Option PortText) : List Char :=
  match p with
  | none => []
  | some p => ':' :: p.digits

lemma of_mem_behind {p : Option PortText} {c : Char} (h : c ∈ behind p) :
    c.isDigit ∨ c = ':' := by
  cases p with
  | none => exact absurd h List.not_mem_nil
  | some p =>
      rcases List.mem_cons.1 h with rfl | h
      · exact Or.inr rfl
      · exact Or.inl (p.isDigit c h)

lemma dot_not_mem_behind (p : Option PortText) : '.' ∉ behind p := by
  intro h
  rcases of_mem_behind h with h | h <;> exact absurd h (by decide)

/-- What stands in a port stands in an authority. -/
lemma isAuthorityChar_of_mem_behind {p : Option PortText} {c : Char} (h : c ∈ behind p) :
    isAuthorityChar c := by
  rcases of_mem_behind h with h | rfl
  · exact isAuthorityChar_of_isPlainChar (isPlainChar_of_isDigit h)
  · exact isAuthorityChar_of_mem_marks (by decide)

/-- The port that is meant, unless it is the one of the scheme. -/
def number? (p : Option PortText) : Option Nat := (p.map value).filter (· ≠ 443)

/-- A port is printed so that it is meant again. -/
lemma number?_map_ofNat {port : Option Nat} (h : ∀ n, port = some n → n ≠ 443) :
    number? (port.map ofNat) = port := by
  cases port with
  | none => rfl
  | some n => simp [number?, h n rfl]

lemma port?_digits (p : PortText) : Authority.port? p.digits =
    if 65535 < p.value then .error .invalidPort else .ok (number? (some p)) := by
  have hvalue : p.digits.foldl (fun n c => n * 10 + (c.toNat - 48)) 0 = p.value := by
    rw [value, Nat.ofDigitChars_eq_foldl]
    simp only [Nat.mul_comm]
    rfl
  rw [Authority.port?, if_neg p.ne_nil, if_pos (List.all_eq_true.2 p.isDigit)]
  simp only [hvalue]
  split
  · rfl
  · rw [number?, Option.map_some, Option.filter_some]
    by_cases h : p.value = 443 <;> simp [h]

lemma port?_behind (p : Option PortText) : Authority.port? ((p.map digits).getD []) =
    if ∃ q ∈ p, 65535 < q.value then .error .invalidPort else .ok (number? p) := by
  cases p with
  | none => simp [Authority.port?, number?]
  | some p => simp [port?_digits]

end PortText

namespace Authority

/-- A port that has been read. -/
lemma of_port? {cs : List Char} {n : Nat} (h : port? cs = .ok (some n)) :
    n ≤ 65535 ∧ n ≠ 443 := by
  rw [port?] at h
  split at h
  · cases h
  · split at h
    · simp only at h
      split at h
      · cases h
      · split at h
        · cases h
        · obtain rfl := Option.some.inj (Except.ok.inj h)
          omega
    · cases h

/-- A host is printed with its port behind it. -/
lemma toText_eq (a : Authority) :
    a.toText = a.host.toText ++ PortText.behind (a.port.map PortText.ofNat) := by
  rw [toText]
  cases a.port <;> rfl

/-- The host and the port of an authority that has been read. -/
theorem of_parse {cs : List Char} {a : Authority} (h : parse cs = .ok a) :
    (∃ ds, Host.parse ds = .ok a.host) ∧ ∀ n, a.port = some n → n ≤ 65535 ∧ n ≠ 443 := by
  rw [parse] at h
  split at h
  · cases h
  · next host hhost =>
    split at h
    · cases h
    · next port hport =>
      obtain rfl := Except.ok.inj h
      refine ⟨⟨_, hhost⟩, ?_⟩
      rintro n rfl
      exact of_port? hport

/-! ### Cutting the port off -/

/-- Inside brackets no colon counts. -/
lemma cutPort_inside {cs : List Char} (h : ']' ∉ cs) (rest : List Char) :
    cutPort true (cs ++ ']' :: rest) =
      (cs ++ ']' :: (cutPort false rest).1, (cutPort false rest).2) := by
  induction cs with
  | nil => rfl
  | cons c cs ih =>
      rw [List.mem_cons, not_or] at h
      have hc : ¬ (c = ':' ∧ (!true) = true) := fun h => Bool.false_ne_true h.2
      have hinside : (c = '[' || (true && c ≠ ']')) = true := by
        simp [Ne.symm h.1]
      rw [List.cons_append, cutPort, if_neg hc, hinside, ih h.2]
      rfl

lemma isClosed_brackets {cs : List Char} (h : ']' ∉ cs) : IsClosed ('[' :: (cs ++ [']'])) := by
  intro rest
  have hinside := cutPort_inside h rest
  rw [List.cons_append, List.append_assoc, List.singleton_append, cutPort,
    if_neg (by decide)]
  simp only [decide_true, Bool.true_or, hinside]
  simp

/-- Host and port are read apart. -/
theorem parse_append {host : List Char} (hclosed : IsClosed host)
    (hvisible : ∀ c ∈ host, 0x20 < c.toNat) (p : Option PortText) :
    parse (host ++ PortText.behind p) = match Host.parse host with
      | .error e => .error e
      | .ok h => if ∃ q ∈ p, 65535 < q.value then .error .invalidPort
          else .ok ⟨h, PortText.number? p⟩ := by
  have hlow : ∀ c ∈ host ++ PortText.behind p, 0x20 < c.toNat := by
    intro c hc
    rcases List.mem_append.1 hc with hc | hc
    · exact hvisible c hc
    · exact (of_isAuthorityChar (PortText.isAuthorityChar_of_mem_behind hc)).1.1
  have hcut : cutPort false (PortText.behind p) = ([], p.map PortText.digits) := by
    cases p <;> rfl
  rw [parse, clean_eq_self hlow, hclosed, hcut, List.append_nil]
  simp only [PortText.port?_behind]
  cases hhost : Host.parse host with
  | error e => simp
  | ok h =>
      by_cases hlarge : ∃ q ∈ p, 65535 < q.value
      · simp only [hlarge, if_true]
      · simp only [hlarge, if_false]

end Authority

end ResultPages
