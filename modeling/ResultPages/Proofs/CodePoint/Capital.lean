/-
Latin capitals in the tables of characters.

`isCapital` holds for the capitals of ASCII and for all characters that have one of them for
their base, such as the capitals with accents.  Names replace every one of them
(`replacement?_isSome_of_isCapital`), and what names write instead of a character is none of them
again (`of_mem_nameImage?`).  A composite that is no capital has no capital for a part
(`of_mem_composites`).
-/
import ResultPages.CodePoint.Composition
import ResultPages.CodePoint.NameMapping
import ResultPages.Proofs.Text.Ascii

namespace ResultPages

namespace CodePoint

/-! ### Capitals -/

/-- The stretches of Latin capitals that have a letter of ASCII for their base, from the first to
the last, with their small letters. -/
def capitals : List Shift := [
  ⟨⟨0x41, 0x5A⟩, 1, 0x61⟩, ⟨⟨0xC0, 0xD6⟩, 1, 0xE0⟩, ⟨⟨0xD8, 0xDE⟩, 1, 0xF8⟩,
  ⟨⟨0x100, 0x12E⟩, 2, 0x101⟩, ⟨⟨0x130, 0x130⟩, 1, 0x69⟩, ⟨⟨0x134, 0x136⟩, 2, 0x135⟩,
  ⟨⟨0x139, 0x13D⟩, 2, 0x13A⟩, ⟨⟨0x141, 0x147⟩, 2, 0x142⟩, ⟨⟨0x14A, 0x176⟩, 2, 0x14B⟩,
  ⟨⟨0x178, 0x178⟩, 1, 0xFF⟩, ⟨⟨0x179, 0x17D⟩, 2, 0x17A⟩, ⟨⟨0x1A0, 0x1A4⟩, 2, 0x1A1⟩,
  ⟨⟨0x1AF, 0x1AF⟩, 1, 0x1B0⟩, ⟨⟨0x1CD, 0x1DB⟩, 2, 0x1CE⟩, ⟨⟨0x1DE, 0x1EE⟩, 2, 0x1DF⟩,
  ⟨⟨0x1F4, 0x1F4⟩, 1, 0x1F5⟩, ⟨⟨0x1F8, 0x21E⟩, 2, 0x1F9⟩, ⟨⟨0x222, 0x232⟩, 2, 0x223⟩,
  ⟨⟨0x1E00, 0x1E94⟩, 2, 0x1E01⟩, ⟨⟨0x1EA0, 0x1EFE⟩, 2, 0x1EA1⟩]

/-- A code point of a Latin capital.  They lie in two blocks, and characters outside of these are
told from them at once; within, only the first stretch that is not behind a character can hold
it. -/
def isCapital (n : Nat) : Bool :=
  -- the tables below are run through in the kernel, which compares numbers by `Nat.ble` at once
  (n.ble 0x232 || (Nat.ble 0x1E00 n && n.ble 0x1EFE)) &&
    (capitals.find? (n.ble ·.range.last)).any fun s =>
      s.range.first.ble n && ((n - s.range.first) % s.step).beq 0

lemma exists_of_isCapital {n : Nat} (h : isCapital n) :
    (n ≤ 0x232 ∨ 0x1E00 ≤ n ∧ n ≤ 0x1EFE) ∧ ∃ s ∈ capitals,
      s.range.first ≤ n ∧ n ≤ s.range.last ∧ (n - s.range.first) % s.step = 0 := by
  simp only [isCapital, Bool.and_eq_true, Bool.or_eq_true, Option.any_eq_true, Nat.ble_eq,
    Nat.beq_eq] at h
  obtain ⟨hblock, s, hs, hfirst, hstep⟩ := h
  have hlast := List.find?_some hs
  exact ⟨hblock, s, List.mem_of_find?_eq_some hs, hfirst, Nat.le_of_ble_eq_true hlast, hstep⟩

lemma isCapital_of_ascii {c : Char} (h : c.toLower ≠ c) : isCapital c.toNat := by
  rw [Ne, toLower_eq_self_iff, not_not] at h
  have hall : ∀ k < 26, isCapital (65 + k) := by decide
  have hcode := hall (c.toNat - 65) (by omega)
  rwa [Nat.add_sub_of_le h.1] at hcode

lemma isCapital_ofNat {n : Nat} (h : isCapital n = false) :
    isCapital (Char.ofNat n).toNat = false := by
  rw [toNat_ofNat_eq]
  split
  · exact h
  · rfl

/-! ### Mapping -/

/-- Whether nothing that a stretch leads to lies on another one, as their bounds show, or as every
second place of the one falls between two places of the other. -/
def Shift.misses (s t : Shift) : Bool :=
  s.target + (s.range.last - s.range.first) < t.range.first || t.range.last < s.target ||
    (s.step == 2 && t.step == 2 && (s.target + t.range.first) % 2 == 1)

lemma Shift.not_on_of_misses {s t : Shift} (h : s.misses t) {k : Nat}
    (hk : k ≤ s.range.last - s.range.first) (hstep : k % s.step = 0) :
    ¬ (t.range.first ≤ s.target + k ∧ s.target + k ≤ t.range.last ∧
      (s.target + k - t.range.first) % t.step = 0) := by
  rintro ⟨hfirst, hlast, hplace⟩
  simp only [misses, Bool.or_eq_true, Bool.and_eq_true, decide_eq_true_eq, beq_iff_eq] at h
  rcases h with hbounds | ⟨⟨hs, ht⟩, hodd⟩
  · omega
  · -- both stretches take every second place, and an odd number of places lies between them
    rw [hs] at hstep
    rw [ht] at hplace
    omega

/-- Whether all that a stretch leads to lies outside the blocks of the capitals. -/
def Shift.leavesBlocks (s : Shift) : Bool :=
  0x1EFF ≤ s.target ||
    (0x233 ≤ s.target && s.target + (s.range.last - s.range.first) < 0x1E00)

lemma of_mem_shifts : ∀ s ∈ shifts, s.leavesBlocks || capitals.all s.misses := by
  decide +kernel

lemma of_mem_images : (∀ e ∈ singleImages, isCapital e.2 = false) ∧
    ∀ e ∈ severalImages, ∀ n ∈ e.2, isCapital n = false := by
  decide +kernel

/-- Capitals are replaced one by one, or in stretches. -/
lemma of_mem_capitals : ∀ s ∈ capitals,
    (s.range.first = s.range.last ∧ (replacement? (Char.ofNat s.range.first)).isSome) ∨
      s ∈ shifts := by
  decide +kernel

/-- A stretch never leads to a capital. -/
lemma Shift.isCapital_image {s : Shift} (hs : s ∈ shifts) {c : Char} (h : s.appliesTo c) :
    isCapital (s.image c).toNat = false := by
  obtain ⟨⟨hfirst, hlast⟩, hstep⟩ := appliesTo_iff.1 h
  refine isCapital_ofNat (Bool.eq_false_iff.2 fun hcapital => ?_)
  obtain ⟨hblock, t, ht, hon⟩ := exists_of_isCapital hcapital
  rcases Bool.or_eq_true_iff.1 (of_mem_shifts s hs) with houtside | hall
  · simp only [leavesBlocks, Bool.or_eq_true, Bool.and_eq_true, decide_eq_true_eq] at houtside
    omega
  · exact not_on_of_misses (List.all_eq_true.1 hall t ht) (Nat.sub_le_sub_right hlast _) hstep hon

/-- Every capital is replaced. -/
theorem replacement?_isSome_of_isCapital {c : Char} (h : isCapital c.toNat) :
    (replacement? c).isSome := by
  obtain ⟨-, s, hs, hfirst, hlast, hstep⟩ := exists_of_isCapital h
  rcases of_mem_capitals s hs with ⟨hone, hsome⟩ | hmem
  · have hcode : s.range.first = c.toNat := by omega
    rwa [hcode, Char.ofNat_toNat] at hsome
  · have hfound : (shifts.find? (·.appliesTo c)).isSome :=
      List.find?_isSome.2 ⟨s, hmem, Shift.appliesTo_iff.2 ⟨⟨hfirst, hlast⟩, hstep⟩⟩
    obtain ⟨t, ht⟩ := Option.isSome_iff_exists.1 hfound
    rw [replacement?, ht]
    rfl

/-- What stands for a character is no capital. -/
lemma of_mem_replacement? {c d : Char} {cs : List Char} (h : replacement? c = some cs)
    (hd : d ∈ cs) : isCapital d.toNat = false := by
  rw [replacement?] at h
  split at h
  · next s hs =>
    obtain rfl := Option.some.inj h
    have happlies := List.find?_some hs
    rw [List.mem_singleton.1 hd]
    exact Shift.isCapital_image (List.mem_of_find?_eq_some hs) happlies
  · split at h
    · next n hn =>
      obtain rfl := Option.some.inj h
      rw [List.mem_singleton.1 hd]
      exact isCapital_ofNat (of_mem_images.1 _ (List.mem_of_find?_eq_some hn))
    · obtain ⟨e, he, rfl⟩ := Option.map_eq_some_iff.1 h
      obtain ⟨n, hn, rfl⟩ := List.mem_map.1 hd
      exact isCapital_ofNat (of_mem_images.2 e (List.mem_of_find?_eq_some he) n hn)

/-- No capital is left when the characters of a name have been mapped. -/
theorem of_mem_nameImage? {c d : Char} {cs : List Char} (h : nameImage? c = some cs)
    (hd : d ∈ cs) : isCapital d.toNat = false := by
  rw [nameImage?] at h
  split at h
  · next ds hreplaced =>
    obtain rfl := Option.some.inj h
    exact of_mem_replacement? hreplaced hd
  · next hnone =>
    split at h
    · obtain rfl := Option.some.inj h
      exact absurd hd List.not_mem_nil
    · split at h
      · cases h
      · -- the character is kept, so it is no capital
        obtain rfl := Option.some.inj h
        rw [List.mem_singleton.1 hd, Bool.eq_false_iff]
        intro hcapital
        have hsome := replacement?_isSome_of_isCapital hcapital
        rw [hnone] at hsome
        cases hsome

/-! ### Composition -/

/-- A composite lies outside ASCII, and a part of it is a capital only if it is one itself. -/
lemma of_mem_composites : ∀ p ∈ composites, 128 ≤ p.whole ∧
    (isCapital p.base → isCapital p.whole) ∧ isCapital p.mark = false := by
  decide +kernel

end CodePoint

end ResultPages
