/-
Small forms of texts, and small letters of ASCII.

An ASCII character has its lower case for a small form.  The small form of any other character
holds a character outside ASCII, and only the sign of the kelvin goes to a letter of ASCII
alone, which is a k (`smallForm_outside_ascii`).  So a text without a k that is all ASCII is the
small form of nothing but its own spellings in the letters of both cases
(`smallText_eq_iff`).
-/
import ResultPages.CodePoint.SmallForm
import ResultPages.Proofs.Text.Ascii

namespace ResultPages

namespace CodePoint

/-- The first stretch holds the capitals of ASCII, and the others begin beyond ASCII.  They lead
to characters beyond ASCII, other than the one of the kelvin sign. -/
lemma of_mem_smallForms : ∀ s ∈ smallForms, s = ⟨⟨0x41, 0x5A⟩, 1, 0x61⟩ ∨ 128 ≤ s.range.first ∧
    (s = ⟨⟨0x212A, 0x212A⟩, 1, 0x6B⟩ ∨
      (128 ≤ s.target ∧ s.target + (s.range.last - s.range.first) < 0xD800) ∨
      (0xE000 ≤ s.target ∧ s.target + (s.range.last - s.range.first) < 0x110000)) := by
  decide +kernel

/-- The small form of a character of ASCII is its lower case. -/
lemma smallForm_of_ascii {c : Char} (hc : c.toNat < 128) : smallForm c = [c.toLower] := by
  have hdotted : c ≠ '\u0130' := by
    rintro rfl
    exact absurd hc (by decide)
  rw [smallForm, if_neg hdotted]
  split
  · next s hs =>
    have happlies := List.find?_some hs
    rcases of_mem_smallForms s (List.mem_of_find?_eq_some hs) with rfl | ⟨hfirst, -⟩
    · exact forall_ascii (P := fun c => Shift.appliesTo ⟨⟨0x41, 0x5A⟩, 1, 0x61⟩ c →
        [Shift.image ⟨⟨0x41, 0x5A⟩, 1, 0x61⟩ c] = [c.toLower]) (by decide) hc happlies
    · have := (Shift.appliesTo_iff.1 happlies).1
      omega
  · next hnone =>
    -- a capital of ASCII would be found on the first stretch
    have hfirst := List.find?_eq_none.1 hnone ⟨⟨0x41, 0x5A⟩, 1, 0x61⟩ List.mem_cons_self
    refine congrArg (fun d => [d]) (toLower_eq_self_iff.2 fun hcapital => hfirst ?_).symm
    exact Shift.appliesTo_iff.2 ⟨hcapital, Nat.mod_one _⟩

/-- The small form of a character outside ASCII is not in ASCII, but for one sign. -/
theorem smallForm_outside_ascii {c : Char} (hc : 128 ≤ c.toNat) :
    smallForm c = ['k'] ∨ ∃ d ∈ smallForm c, 128 ≤ d.toNat := by
  rw [smallForm]
  split
  · exact Or.inr ⟨'\u0307', by simp, by decide⟩
  · split
    · next s hs =>
      have happlies := List.find?_some hs
      obtain ⟨⟨hfirst, hlast⟩, -⟩ := Shift.appliesTo_iff.1 happlies
      rcases of_mem_smallForms s (List.mem_of_find?_eq_some hs) with rfl | ⟨-, rfl | h⟩
      · simp only at hlast
        omega
      · have hcode : c.toNat - 0x212A = 0 := by
          simp only at hlast
          omega
        rw [Shift.image, hcode]
        exact Or.inl rfl
      · refine Or.inr ⟨s.image c, List.mem_singleton_self _, ?_⟩
        have hvalid : (s.target + (c.toNat - s.range.first)).isValidChar := by
          rw [Nat.isValidChar]
          omega
        rw [Shift.image, toNat_ofNat_eq, if_pos hvalid]
        omega
    · exact Or.inr ⟨c, List.mem_singleton_self _, hc⟩

end CodePoint

open CodePoint

lemma smallText_of_ascii {cs : List Char} (h : ∀ c ∈ cs, c.toNat < 128) :
    smallText cs = cs.map Char.toLower := by
  induction cs with
  | nil => rfl
  | cons c cs ih =>
      rw [List.forall_mem_cons] at h
      rw [smallText, List.flatMap_cons, smallForm_of_ascii h.1, List.map_cons, List.singleton_append]
      exact congrArg _ (ih h.2)

/-- A text of ASCII without a k is the small form of a text exactly if it is the text in lower
case. -/
theorem smallText_eq_iff {cs ds : List Char} (hds : ∀ d ∈ ds, d.toNat < 128) (hk : 'k' ∉ ds) :
    smallText cs = ds ↔ cs.map Char.toLower = ds := by
  constructor
  · rintro rfl
    rw [smallText_of_ascii]
    intro c hc
    by_contra hge
    have hmem : ∀ d ∈ smallForm c, d ∈ smallText cs := fun d hd =>
      List.mem_flatMap.2 ⟨c, hc, hd⟩
    rcases smallForm_outside_ascii (Nat.not_lt.1 hge) with hkelvin | ⟨d, hd, hlarge⟩
    · exact hk (hmem 'k' (by simp [hkelvin]))
    · exact absurd (hds d (hmem d hd)) (Nat.not_lt.2 hlarge)
  · rintro rfl
    refine smallText_of_ascii fun c hc => ?_
    by_contra hge
    have hlower : c.toLower = c := toLower_eq_self_iff.2 (by omega)
    have hmem := hds c.toLower (List.mem_map_of_mem hc)
    rw [hlower] at hmem
    exact hge hmem

end ResultPages
