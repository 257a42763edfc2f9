/-
The texts that are read as numbers.

A number only grows with its digits.  So the digits that are read to their end are those whose
number lies within the bound (`digits_eq_ok_iff`), however many of them there are and whatever
zeros stand in front, and a number beyond the bound is never taken for a smaller one.  With the
signs this gives the numbers without a minus sign (`natural_eq_ok_iff`) and the signed ones of
64 bits (`int64_eq_ok_iff`).
-/
import Mathlib.Tactic.Common
import ResultPages.Text.Number

namespace ResultPages

/-! ### The notation -/

/-- Decimal digits, at least one of them, that spell a number. -/
structure IsDecimal (cs : List Char) (n : Nat) : Prop where
  ne_nil : cs ≠ []
  isDigit : ∀ c ∈ cs, c.isDigit
  value : Nat.ofDigitChars 10 cs 0 = n

/-- Decimal digits, perhaps behind a plus sign. -/
inductive IsNatural : List Char → Nat → Prop
  | bare {cs : List Char} {n : Nat} (digits : IsDecimal cs n) : IsNatural cs n
  | plus {cs : List Char} {n : Nat} (digits : IsDecimal cs n) : IsNatural ('+' :: cs) n

/-- Decimal digits, perhaps behind a sign. -/
inductive IsInteger : List Char → Int → Prop
  | natural {cs : List Char} {n : Nat} (digits : IsNatural cs n) : IsInteger cs n
  | minus {cs : List Char} {n : Nat} (digits : IsDecimal cs n) : IsInteger ('-' :: cs) (-n)

lemma IsDecimal.head_isDigit {c : Char} {cs : List Char} {n : Nat}
    (h : IsDecimal (c :: cs) n) : c.isDigit :=
  h.isDigit c List.mem_cons_self

lemma IsNatural.ne_nil {cs : List Char} {n : Nat} (h : IsNatural cs n) : cs ≠ [] := by
  cases h with
  | bare digits => exact digits.ne_nil
  | plus => exact List.cons_ne_nil _ _

lemma IsNatural.of_mem {cs : List Char} {n : Nat} (h : IsNatural cs n) {c : Char}
    (hc : c ∈ cs) : c.isDigit ∨ c = '+' := by
  cases h with
  | bare digits => exact Or.inl (digits.isDigit c hc)
  | plus digits =>
      rcases List.mem_cons.1 hc with rfl | hc
      · exact Or.inr rfl
      · exact Or.inl (digits.isDigit c hc)

/-- A text is no two numbers. -/
lemma IsNatural.unique {cs : List Char} {n m : Nat} (hn : IsNatural cs n)
    (hm : IsNatural cs m) : n = m := by
  cases hn with
  | bare digits =>
      cases hm with
      | bare digits' => exact digits.value.symm.trans digits'.value
      | plus => exact absurd digits.head_isDigit (by decide)
  | plus digits =>
      cases hm with
      | bare digits' => exact absurd digits'.head_isDigit (by decide)
      | plus digits' => exact digits.value.symm.trans digits'.value

/-- A number is printed in decimal digits. -/
lemma isDecimal_toDigits (n : Nat) : IsDecimal (Nat.toDigits 10 n) n :=
  ⟨Nat.toDigits_ne_nil, fun _ hc => Nat.isDigit_of_mem_toDigits (by decide) (by decide) hc,
    Nat.ofDigitChars_ten_toDigits⟩

namespace Number

variable {bound : Nat} {overflow : NumberError} {cs : List Char}

/-! ### Digits -/

/-- A number grows with its digits. -/
lemma le_ofDigitChars (cs : List Char) (n : Nat) : n ≤ Nat.ofDigitChars 10 cs n := by
  induction cs generalizing n with
  | nil => exact Nat.le_refl n
  | cons c cs ih =>
      rw [Nat.ofDigitChars_cons]
      have hle := ih (10 * n + (c.toNat - '0'.toNat))
      omega

/-- What a digit adds to a number. -/
lemma addDigit_eq_ok_iff {n m : Nat} {c : Char} : addDigit bound overflow n c = .ok m ↔
    c.isDigit ∧ 10 * n + (c.toNat - '0'.toNat) = m ∧ m ≤ bound := by
  have hzero : '0'.toNat = 48 := rfl
  rw [addDigit]
  cases hc : c.isDigit with
  | false => simp
  | true =>
      simp only [Bool.not_true, Bool.false_eq_true, if_false, true_and]
      split
      · simp only [reduceCtorEq, false_iff]
        omega
      · rw [Except.ok.injEq]
        omega

/-- Digits are read to their end exactly if the number that they come to is within the bound. -/
lemma foldlM_addDigit_eq_ok_iff {n m : Nat} (hn : n ≤ bound) :
    cs.foldlM (addDigit bound overflow) n = .ok m ↔
      (∀ c ∈ cs, c.isDigit) ∧ Nat.ofDigitChars 10 cs n = m ∧ m ≤ bound := by
  induction cs generalizing n with
  | nil =>
      simp only [List.foldlM_nil, pure, Except.pure, Except.ok.injEq, List.not_mem_nil,
        false_imp_iff, implies_true, true_and, Nat.ofDigitChars_nil]
      exact ⟨fun h => ⟨h, h ▸ hn⟩, And.left⟩
  | cons c cs ih =>
      rw [List.foldlM_cons, List.forall_mem_cons, Nat.ofDigitChars_cons]
      cases hstep : addDigit bound overflow n c with
      | error e =>
          -- the digit is none, or the number is too large by now and only grows
          refine iff_of_false (by simp [bind, Except.bind]) ?_
          rintro ⟨⟨hc, -⟩, rfl, hle⟩
          have hgrows := Nat.le_trans (le_ofDigitChars cs _) hle
          rw [addDigit_eq_ok_iff.2 ⟨hc, rfl, hgrows⟩] at hstep
          cases hstep
      | ok k =>
          obtain ⟨hc, rfl, hk⟩ := addDigit_eq_ok_iff.1 hstep
          refine (ih hk).trans ?_
          rw [iff_true_intro hc, true_and]

theorem digits_eq_ok_iff {n : Nat} :
    digits bound overflow cs = .ok n ↔ IsDecimal cs n ∧ n ≤ bound := by
  rw [digits]
  split
  · next hnil => exact iff_of_false nofun fun h => h.1.ne_nil hnil
  · next hne =>
    rw [foldlM_addDigit_eq_ok_iff (Nat.zero_le bound)]
    exact ⟨fun ⟨hdigit, hvalue, hle⟩ => ⟨⟨hne, hdigit, hvalue⟩, hle⟩,
      fun ⟨h, hle⟩ => ⟨h.isDigit, h.value, hle⟩⟩

/-! ### Signs -/

theorem natural_eq_ok_iff {n : Nat} : natural bound cs = .ok n ↔ IsNatural cs n ∧ n ≤ bound := by
  cases cs with
  | nil =>
      refine iff_of_false nofun ?_
      rintro ⟨⟨h⟩, -⟩
      exact h.ne_nil rfl
  | cons c cs =>
      rw [natural, digits_eq_ok_iff]
      refine and_congr_left fun _ => ?_
      split
      · next hc =>
        subst hc
        refine ⟨.plus, fun h => ?_⟩
        cases h with
        | bare digits => exact absurd digits.head_isDigit (by decide)
        | plus digits => exact digits
      · next hc =>
        refine ⟨.bare, fun h => ?_⟩
        cases h with
        | bare digits => exact digits
        | plus => exact absurd rfl hc

lemma map_eq_ok_iff {x : Except NumberError Nat} {f : Nat → Int} {z : Int} :
    x.map f = .ok z ↔ ∃ n, x = .ok n ∧ f n = z := by
  cases x <;> simp [Except.map]

theorem int64_eq_ok_iff {z : Int} : int64 cs = .ok z ↔
    IsInteger cs z ∧ -0x8000000000000000 ≤ z ∧ z ≤ 0x7FFFFFFFFFFFFFFF := by
  cases cs with
  | nil =>
      refine iff_of_false nofun ?_
      rintro ⟨⟨⟨h⟩⟩, -⟩
      exact h.ne_nil rfl
  | cons c cs =>
      rw [int64]
      split
      · next hc =>
        subst hc
        simp only [map_eq_ok_iff, digits_eq_ok_iff, Int.ofNat_eq_natCast]
        constructor
        · rintro ⟨n, ⟨digits, hle⟩, rfl⟩
          exact ⟨.minus digits, by omega, by omega⟩
        · rintro ⟨h, hlow, -⟩
          cases h with
          | natural digits =>
              cases digits with
              | bare digits => exact absurd digits.head_isDigit (by decide)
          | @minus _ n digits => exact ⟨n, ⟨digits, by omega⟩, rfl⟩
      · next hc =>
        simp only [map_eq_ok_iff, natural_eq_ok_iff, Int.ofNat_eq_natCast]
        constructor
        · rintro ⟨n, ⟨digits, hle⟩, rfl⟩
          exact ⟨.natural digits, by omega, by omega⟩
        · rintro ⟨h, -, hhigh⟩
          cases h with
          | @natural _ n digits => exact ⟨n, ⟨digits, by omega⟩, rfl⟩
          | minus => exact absurd rfl hc

end Number

end ResultPages
