/-
Reading UTF-8 undoes writing it, and nothing else is read.

The reader of `Utf8` goes over octets that need not be UTF-8 at all, and gives up a *broken*
unit wherever no character can be read.  Here it is compared with the writer, which spells a
character by one to four octets.  The comparison is made for one character first:

* `unit_utf8EncodeChar`: in front of any octets, the spelling of a character is read as that
  character, and the octets behind it are left;
* `utf8EncodeChar_of_unit`: where a character is read, its spelling stands.

From the two it follows that `units bs = cs.map some` exactly if `bs` spells `cs`, so that the
strict reading finds exactly the texts that have been written, and the lossy reading can yield
a text without U+FFFD only from the octets that spell it (`lossy_eq_iff`).
-/
import Mathlib.Tactic.Common
import ResultPages.Text.Utf8

namespace ResultPages

/-- A list is gone through without failure exactly if every member is read. -/
lemma mapM_eq_some_iff {α β : Type} {f : α → Option β} {xs : List α} {ys : List β} :
    xs.mapM f = some ys ↔ xs.map f = ys.map some := by
  induction xs generalizing ys with
  | nil => cases ys <;> simp
  | cons x xs ih => cases ys <;> simp [Option.bind_eq_some_iff, ih]

lemma exists_of_mem_mapM {α β : Type} {f : α → Option β} {xs : List α} {ys : List β}
    (h : xs.mapM f = some ys) {y : β} (hy : y ∈ ys) : ∃ x ∈ xs, f x = some y := by
  have hmem : some y ∈ xs.map f := by
    rw [mapM_eq_some_iff.1 h]
    exact List.mem_map_of_mem hy
  exact List.mem_map.1 hmem

namespace Utf8

/-! ### First octets and following ones -/

/-- What the octet `n` says as a first one. -/
lemma lead?_ofNat {n : Nat} (hn : n < 256) : lead? (UInt8.ofNat n) =
    if n < 0x80 then some ⟨n, 0x80, 0xBF, 0⟩
    else if n < 0xC2 then none
    else if n < 0xE0 then some ⟨n - 0xC0, 0x80, 0xBF, 1⟩
    else if n = 0xE0 then some ⟨0, 0xA0, 0xBF, 2⟩
    else if n = 0xED then some ⟨0xD, 0x80, 0x9F, 2⟩
    else if n < 0xF0 then some ⟨n - 0xE0, 0x80, 0xBF, 2⟩
    else if n = 0xF0 then some ⟨0, 0x90, 0xBF, 3⟩
    else if n < 0xF4 then some ⟨n - 0xF0, 0x80, 0xBF, 3⟩
    else if n = 0xF4 then some ⟨4, 0x80, 0x8F, 3⟩
    else none := by
  simp [lead?, UInt8.lt_iff_toNat_lt, ← UInt8.toNat_inj, Nat.mod_eq_of_lt hn]

lemma lead?_one {a : Nat} (ha : a < 0x80) :
    lead? (UInt8.ofNat a) = some ⟨a, 0x80, 0xBF, 0⟩ := by
  rw [lead?_ofNat (by omega), if_pos ha]

lemma lead?_two {a : Nat} (ha : 2 ≤ a) (ha' : a < 32) :
    lead? (UInt8.ofNat (a + 0xC0)) = some ⟨a, 0x80, 0xBF, 1⟩ := by
  rw [lead?_ofNat (by omega), if_neg (by omega), if_neg (by omega), if_pos (by omega),
    Nat.add_sub_cancel]

/-- The first octet of three; the bounds exclude overlong forms and surrogates. -/
lemma lead?_three {a : Nat} (ha : a < 16) :
    ∃ low high, lead? (UInt8.ofNat (a + 0xE0)) = some ⟨a, low, high, 2⟩ ∧
      (a = 0 ∧ low.toNat = 0xA0 ∨ a ≠ 0 ∧ low.toNat = 0x80) ∧
      (a = 13 ∧ high.toNat = 0x9F ∨ a ≠ 13 ∧ high.toNat = 0xBF) := by
  rw [lead?_ofNat (by omega), if_neg (by omega), if_neg (by omega), if_neg (by omega)]
  by_cases h0 : a = 0
  · subst h0
    exact ⟨0xA0, 0xBF, by simp⟩
  by_cases hd : a = 13
  · subst hd
    exact ⟨0x80, 0x9F, by simp⟩
  · rw [if_neg (by omega), if_neg (by omega), if_pos (by omega), Nat.add_sub_cancel]
    exact ⟨0x80, 0xBF, rfl, by simp [h0], by simp [hd]⟩

/-- The first octet of four; the bounds exclude overlong forms and what is above U+10FFFF. -/
lemma lead?_four {a : Nat} (ha : a ≤ 4) :
    ∃ low high, lead? (UInt8.ofNat (a + 0xF0)) = some ⟨a, low, high, 3⟩ ∧
      (a = 0 ∧ low.toNat = 0x90 ∨ a ≠ 0 ∧ low.toNat = 0x80) ∧
      (a = 4 ∧ high.toNat = 0x8F ∨ a ≠ 4 ∧ high.toNat = 0xBF) := by
  rw [lead?_ofNat (by omega), if_neg (by omega), if_neg (by omega), if_neg (by omega),
    if_neg (by omega), if_neg (by omega), if_neg (by omega)]
  by_cases h0 : a = 0
  · subst h0
    exact ⟨0x90, 0xBF, by simp⟩
  by_cases h4 : a = 4
  · subst h4
    exact ⟨0x80, 0x8F, by simp⟩
  · rw [if_neg (by omega), if_pos (by omega), Nat.add_sub_cancel]
    exact ⟨0x80, 0xBF, rfl, by simp [h0], by simp [h4]⟩

/-- The following octet that carries the six bits `t`. -/
abbrev tail (t : Nat) : UInt8 := UInt8.ofNat (t + 0x80)

lemma follow_tail {n v t : Nat} {low high : UInt8} (bs : Octets) (ht : t < 64)
    (hlow : low.toNat ≤ t + 0x80) (hhigh : t + 0x80 ≤ high.toNat) :
    follow (n + 1) v low high (tail t :: bs) = follow n (v * 64 + t) 0x80 0xBF bs := by
  have hb : (tail t).toNat = t + 0x80 := by simp; omega
  rw [follow, if_pos, hb, Nat.add_sub_cancel]
  simp only [UInt8.le_iff_toNat_le, hb]
  exact ⟨hlow, hhigh⟩

lemma exists_tail_of_follow {n v w : Nat} {low high : UInt8} {bs rest : Octets}
    (hlow : 0x80 ≤ low.toNat) (hhigh : high.toNat ≤ 0xBF)
    (h : follow (n + 1) v low high bs = (some w, rest)) :
    ∃ t bs', t < 64 ∧ low.toNat ≤ t + 0x80 ∧ t + 0x80 ≤ high.toNat ∧ bs = tail t :: bs' ∧
      follow n (v * 64 + t) 0x80 0xBF bs' = (some w, rest) := by
  cases bs with
  | nil => simp [follow] at h
  | cons b bs =>
      rw [follow] at h
      split at h
      · next hb =>
        simp only [UInt8.le_iff_toNat_le] at hb
        refine ⟨b.toNat - 0x80, bs, by omega, by omega, by omega, ?_, h⟩
        rw [List.cons.injEq, ← UInt8.toNat_inj]
        simp
        omega
      · simp at h

/-! ### The spelling of a character, by its length -/

lemma toNat_ofNat {n : Nat} (h : n.isValidChar) : (Char.ofNat n).toNat = n := by
  rw [Char.ofNat, dif_pos h]
  rfl

lemma utf8EncodeChar_one {a : Nat} (ha : a < 0x80) :
    String.utf8EncodeChar (Char.ofNat a) = [UInt8.ofNat a] := by
  have hv : (Char.ofNat a).val.toNat = a := toNat_ofNat (Or.inl (by omega))
  rw [String.utf8EncodeChar, hv, if_pos (by omega)]

lemma utf8EncodeChar_two {a t : Nat} (ha : 2 ≤ a) (ha' : a < 32) (ht : t < 64) :
    String.utf8EncodeChar (Char.ofNat (a * 64 + t)) = [UInt8.ofNat (a + 0xC0), tail t] := by
  have hv : (Char.ofNat (a * 64 + t)).val.toNat = a * 64 + t := toNat_ofNat (Or.inl (by omega))
  rw [String.utf8EncodeChar, hv, if_neg (by omega), if_pos (by omega),
    show (a * 64 + t) / 64 % 32 = a by omega, show (a * 64 + t) % 64 = t by omega]

lemma utf8EncodeChar_three {a t u : Nat} (ha : a < 16) (ht : t < 64) (hu : u < 64)
    (hlow : 0x800 ≤ (a * 64 + t) * 64 + u) (hv : ((a * 64 + t) * 64 + u).isValidChar) :
    String.utf8EncodeChar (Char.ofNat ((a * 64 + t) * 64 + u)) =
      [UInt8.ofNat (a + 0xE0), tail t, tail u] := by
  have hv : (Char.ofNat ((a * 64 + t) * 64 + u)).val.toNat = (a * 64 + t) * 64 + u :=
    toNat_ofNat hv
  rw [String.utf8EncodeChar, hv, if_neg (by omega), if_neg (by omega), if_pos (by omega),
    show ((a * 64 + t) * 64 + u) / 4096 % 16 = a by omega,
    show ((a * 64 + t) * 64 + u) / 64 % 64 = t by omega,
    show ((a * 64 + t) * 64 + u) % 64 = u by omega]

lemma utf8EncodeChar_four {a t u w : Nat} (ha : a < 8) (ht : t < 64) (hu : u < 64) (hw : w < 64)
    (hlow : 0x10000 ≤ ((a * 64 + t) * 64 + u) * 64 + w)
    (hv : (((a * 64 + t) * 64 + u) * 64 + w).isValidChar) :
    String.utf8EncodeChar (Char.ofNat (((a * 64 + t) * 64 + u) * 64 + w)) =
      [UInt8.ofNat (a + 0xF0), tail t, tail u, tail w] := by
  have hv : (Char.ofNat (((a * 64 + t) * 64 + u) * 64 + w)).val.toNat =
      ((a * 64 + t) * 64 + u) * 64 + w := toNat_ofNat hv
  rw [String.utf8EncodeChar, hv, if_neg (by omega), if_neg (by omega), if_neg (by omega),
    show (((a * 64 + t) * 64 + u) * 64 + w) / 262144 % 8 = a by omega,
    show (((a * 64 + t) * 64 + u) * 64 + w) / 4096 % 64 = t by omega,
    show (((a * 64 + t) * 64 + u) * 64 + w) / 64 % 64 = u by omega,
    show (((a * 64 + t) * 64 + u) * 64 + w) % 64 = w by omega]

/-! ### One character -/

lemma unit_of_lead? {b : UInt8} {v n : Nat} {low high : UInt8}
    (h : lead? b = some ⟨v, low, high, n⟩) (bs : Octets) :
    unit b bs = ((follow n v low high bs).1.map Char.ofNat, (follow n v low high bs).2) := by
  simp only [unit, h]

/-- The spelling of a character is read as that character, whatever stands behind it. -/
theorem unit_utf8EncodeChar (c : Char) (rest : Octets) :
    ∃ b bs, String.utf8EncodeChar c = b :: bs ∧ unit b (bs ++ rest) = (some c, rest) := by
  obtain ⟨n, hvalid, rfl⟩ : ∃ n, n.isValidChar ∧ c = Char.ofNat n :=
    ⟨c.toNat, c.valid, (Char.ofNat_toNat c).symm⟩
  have hn : n < 0xD800 ∨ 0xDFFF < n ∧ n < 0x110000 := hvalid
  rcases Nat.lt_or_ge n 0x80 with h1 | h1
  · -- one octet
    refine ⟨_, _, utf8EncodeChar_one h1, ?_⟩
    rw [unit_of_lead? (lead?_one h1)]
    simp [follow]
  rcases Nat.lt_or_ge n 0x800 with h2 | h2
  · -- two octets
    obtain ⟨a, t, ha, ha', ht, rfl⟩ : ∃ a t, 2 ≤ a ∧ a < 32 ∧ t < 64 ∧ n = a * 64 + t :=
      ⟨n / 64, n % 64, by omega, by omega, by omega, by omega⟩
    refine ⟨_, _, utf8EncodeChar_two ha ha' ht, ?_⟩
    rw [unit_of_lead? (lead?_two ha ha'), List.singleton_append,
      follow_tail _ ht (by simp) (by simp; omega)]
    simp [follow]
  rcases Nat.lt_or_ge n 0x10000 with h3 | h3
  · -- three octets
    obtain ⟨a, t, u, ha, ht, hu, rfl⟩ :
        ∃ a t u, a < 16 ∧ t < 64 ∧ u < 64 ∧ n = (a * 64 + t) * 64 + u :=
      ⟨n / 4096, n / 64 % 64, n % 64, by omega, by omega, by omega, by omega⟩
    refine ⟨_, _, utf8EncodeChar_three ha ht hu h2 hvalid, ?_⟩
    obtain ⟨low, high, hlead, hlow, hhigh⟩ := lead?_three ha
    rw [unit_of_lead? hlead, List.cons_append, List.singleton_append,
      follow_tail _ ht (by omega) (by omega),
      follow_tail _ hu (by simp) (by simp; omega)]
    simp [follow]
  · -- four octets
    obtain ⟨a, t, u, w, ha, ht, hu, hw, rfl⟩ : ∃ a t u w, a ≤ 4 ∧ t < 64 ∧ u < 64 ∧ w < 64 ∧
        n = ((a * 64 + t) * 64 + u) * 64 + w :=
      ⟨n / 262144, n / 4096 % 64, n / 64 % 64, n % 64,
        by omega, by omega, by omega, by omega, by omega⟩
    refine ⟨_, _, utf8EncodeChar_four (by omega) ht hu hw h3 hvalid, ?_⟩
    obtain ⟨low, high, hlead, hlow, hhigh⟩ := lead?_four ha
    rw [unit_of_lead? hlead, List.cons_append, List.cons_append, List.singleton_append,
      follow_tail _ ht (by omega) (by omega),
      follow_tail _ hu (by simp) (by simp; omega), follow_tail _ hw (by simp) (by simp; omega)]
    simp [follow]

lemma exists_follow_of_unit {b : UInt8} {v n : Nat} {low high : UInt8}
    (hl : lead? b = some ⟨v, low, high, n⟩) {bs rest : Octets} {c : Char}
    (h : unit b bs = (some c, rest)) :
    ∃ w, follow n v low high bs = (some w, rest) ∧ c = Char.ofNat w := by
  rw [unit_of_lead? hl, Prod.mk.injEq, Option.map_eq_some_iff] at h
  obtain ⟨⟨w, hw, rfl⟩, rfl⟩ := h
  exact ⟨w, Prod.ext hw rfl, rfl⟩

/-- Where a character is read, its spelling stands. -/
theorem utf8EncodeChar_of_unit {b : UInt8} {bs rest : Octets} {c : Char}
    (h : unit b bs = (some c, rest)) : b :: bs = String.utf8EncodeChar c ++ rest := by
  obtain ⟨n, hn, rfl⟩ : ∃ n, n < 256 ∧ b = UInt8.ofNat n :=
    ⟨b.toNat, b.toNat_lt, (UInt8.ofNat_toNat).symm⟩
  rcases Nat.lt_or_ge n 0x80 with h1 | h1
  · obtain ⟨v, h0, rfl⟩ := exists_follow_of_unit (lead?_one h1) h
    obtain ⟨rfl, rfl⟩ : n = v ∧ bs = rest := by simpa [follow] using h0
    rw [utf8EncodeChar_one h1, List.singleton_append]
  rcases Nat.lt_or_ge n 0xC2 with h2 | h2
  · rw [unit, lead?_ofNat hn, if_neg (by omega), if_pos h2] at h
    simp at h
  rcases Nat.lt_or_ge n 0xE0 with h3 | h3
  · obtain ⟨a, ha, ha', rfl⟩ : ∃ a, 2 ≤ a ∧ a < 32 ∧ n = a + 0xC0 :=
      ⟨n - 0xC0, by omega, by omega, by omega⟩
    obtain ⟨v, h0, rfl⟩ := exists_follow_of_unit (lead?_two ha ha') h
    obtain ⟨t, bs₁, ht, -, -, rfl, h₁⟩ := exists_tail_of_follow (by simp) (by simp) h0
    obtain ⟨rfl, rfl⟩ : a * 64 + t = v ∧ bs₁ = rest := by simpa [follow] using h₁
    rw [utf8EncodeChar_two ha ha' ht, List.cons_append, List.singleton_append]
  rcases Nat.lt_or_ge n 0xF0 with h4 | h4
  · obtain ⟨a, ha, rfl⟩ : ∃ a, a < 16 ∧ n = a + 0xE0 := ⟨n - 0xE0, by omega, by omega⟩
    obtain ⟨low, high, hlead, hlow, hhigh⟩ := lead?_three ha
    obtain ⟨v, h0, rfl⟩ := exists_follow_of_unit hlead h
    obtain ⟨t, bs₁, ht, hlt, hth, rfl, h₁⟩ := exists_tail_of_follow (by omega) (by omega) h0
    obtain ⟨u, bs₂, hu, -, -, rfl, h₂⟩ := exists_tail_of_follow (by simp) (by simp) h₁
    obtain ⟨rfl, rfl⟩ : (a * 64 + t) * 64 + u = v ∧ bs₂ = rest := by simpa [follow] using h₂
    have hvalid : ((a * 64 + t) * 64 + u).isValidChar := by
      simp only [Nat.isValidChar]
      omega
    rw [utf8EncodeChar_three ha ht hu (by omega) hvalid]
    rfl
  rcases Nat.lt_or_ge n 0xF5 with h5 | h5
  · obtain ⟨a, ha, rfl⟩ : ∃ a, a ≤ 4 ∧ n = a + 0xF0 := ⟨n - 0xF0, by omega, by omega⟩
    obtain ⟨low, high, hlead, hlow, hhigh⟩ := lead?_four ha
    obtain ⟨v, h0, rfl⟩ := exists_follow_of_unit hlead h
    obtain ⟨t, bs₁, ht, hlt, hth, rfl, h₁⟩ := exists_tail_of_follow (by omega) (by omega) h0
    obtain ⟨u, bs₂, hu, -, -, rfl, h₂⟩ := exists_tail_of_follow (by simp) (by simp) h₁
    obtain ⟨w, bs₃, hw, -, -, rfl, h₃⟩ := exists_tail_of_follow (by simp) (by simp) h₂
    obtain ⟨rfl, rfl⟩ : ((a * 64 + t) * 64 + u) * 64 + w = v ∧ bs₃ = rest := by
      simpa [follow] using h₃
    have hvalid : (((a * 64 + t) * 64 + u) * 64 + w).isValidChar := by
      simp only [Nat.isValidChar]
      omega
    rw [utf8EncodeChar_four (by omega) ht hu hw (by omega) hvalid]
    rfl
  · have hnone : lead? (UInt8.ofNat n) = none := by
      rw [lead?_ofNat hn]
      repeat rw [if_neg (by omega)]
    simp [unit, hnone] at h

/-! ### Texts -/

/-- The characters of a text are its units, whatever octets stand behind it. -/
theorem units_encode_append (cs : List Char) (rest : Octets) :
    units (encode cs ++ rest) = cs.map some ++ units rest := by
  induction cs with
  | nil => rfl
  | cons c cs ih =>
      obtain ⟨b, bs, hc, hunit⟩ := unit_utf8EncodeChar c (encode cs ++ rest)
      rw [encode_cons, List.append_assoc, hc, List.cons_append, units, hunit, ih]
      rfl

lemma units_encode (cs : List Char) : units (encode cs) = cs.map some := by
  simpa [units] using units_encode_append cs []

/-- Octets whose units are all characters spell them. -/
theorem eq_encode_of_units {bs : Octets} {cs : List Char} (h : units bs = cs.map some) :
    bs = encode cs := by
  induction cs generalizing bs with
  | nil =>
      cases bs with
      | nil => rfl
      | cons b bs => simp [units] at h
  | cons c cs ih =>
      cases bs with
      | nil => simp [units] at h
      | cons b bs =>
          rw [units, List.map_cons, List.cons.injEq] at h
          obtain ⟨hc, hcs⟩ := h
          have hunit : unit b bs = (some c, (unit b bs).2) := Prod.ext hc rfl
          rw [utf8EncodeChar_of_unit hunit, ih hcs, encode_cons]

/-- The strict reading finds exactly the texts that have been written. -/
theorem decode?_eq_some_iff {bs : Octets} {cs : List Char} :
    decode? bs = some cs ↔ bs = encode cs := by
  rw [decode?, mapM_eq_some_iff, List.map_id]
  constructor
  · exact eq_encode_of_units
  · rintro rfl
    exact units_encode cs

/-- The lossy reading reads what has been written. -/
@[simp] theorem lossy_encode (cs : List Char) : lossy (encode cs) = cs := by
  rw [lossy, units_encode, List.map_map]
  exact List.map_id cs

/-- A text without U+FFFD is read only from the octets that spell it. -/
theorem lossy_eq_iff {bs : Octets} {cs : List Char} (hcs : '\uFFFD' ∉ cs) :
    lossy bs = cs ↔ bs = encode cs := by
  constructor
  · rintro rfl
    apply eq_encode_of_units
    -- a broken unit would show as U+FFFD
    have hread : ∀ u ∈ units bs, u = some (u.getD '\uFFFD') := by
      rintro (_ | c) hu
      · exact absurd (List.mem_map_of_mem hu) hcs
      · rfl
    rw [lossy, List.map_map]
    exact (List.map_id (units bs)).symm.trans (List.map_congr_left hread)
  · rintro rfl
    exact lossy_encode cs

end Utf8

namespace Octets

@[simp] theorem toStringLossy_ofString (s : String) : (ofString s).toStringLossy = s := by
  rw [toStringLossy, ofString, Utf8.lossy_encode, String.ofList_toList]

theorem toStringLossy_eq_iff {bs : Octets} {s : String} (hs : '\uFFFD' ∉ s.toList) :
    bs.toStringLossy = s ↔ bs = ofString s := by
  rw [toStringLossy, ofString, ← Utf8.lossy_eq_iff hs, ← String.toList_inj, String.toList_ofList]

end Octets

end ResultPages
