/-
ASCII inside UTF-8.

An ASCII character is spelled by one octet, its own number, and all octets of the other
characters are above the ASCII range.  So an ASCII octet in the spelling of a text stands for
that character and for nothing else, and texts can be cut at ASCII characters before they are
read.
-/
import Mathlib.Tactic.Common
import ResultPages.Text.Percent

namespace ResultPages

/-- What holds of all ASCII characters can be checked number by number. -/
lemma forall_ascii {P : Char → Prop} (h : ∀ n < 128, P (Char.ofNat n)) {c : Char}
    (hc : c.toNat < 128) : P c := by
  rw [← Char.ofNat_toNat c]
  exact h c.toNat hc

/-- What holds of all octets can be checked number by number. -/
lemma forall_octet {P : UInt8 → Prop} (h : ∀ n < 256, P (UInt8.ofNat n)) (b : UInt8) : P b := by
  rw [← UInt8.ofNat_toNat (x := b)]
  exact h b.toNat b.toNat_lt

/-- A code point that no character has gives the one of code point zero. -/
lemma toNat_ofNat_eq (n : Nat) : (Char.ofNat n).toNat = if n.isValidChar then n else 0 := by
  by_cases h : n.isValidChar
  · rw [if_pos h, Char.ofNat, dif_pos h]
    rfl
  · rw [if_neg h, Char.ofNat, dif_neg h]
    rfl

/-- Only the capital letters of ASCII are not in lower case. -/
lemma toLower_eq_self_iff {c : Char} : c.toLower = c ↔ ¬ (65 ≤ c.toNat ∧ c.toNat ≤ 90) := by
  constructor
  · intro h hcapital
    exact forall_ascii (P := fun c => c.toLower = c → ¬ (65 ≤ c.toNat ∧ c.toNat ≤ 90))
      (by decide) (by omega) h hcapital
  · intro h
    refine dif_neg ?_
    rintro ⟨hge, hle⟩
    exact h ⟨UInt32.le_iff_toNat_le.1 hge, UInt32.le_iff_toNat_le.1 hle⟩

lemma toNat_lt_of_isDigit {c : Char} (h : c.isDigit) : c.toNat < 128 := by
  obtain ⟨-, h⟩ := Char.isDigit_iff_toNat.1 h
  exact Nat.lt_of_le_of_lt h (by decide)

lemma toLower_of_isDigit {c : Char} (h : c.isDigit) : c.toLower = c := by
  obtain ⟨-, hle⟩ := Char.isDigit_iff_toNat.1 h
  have hnine : '9'.toNat = 57 := rfl
  rw [toLower_eq_self_iff]
  omega

lemma toUInt8_ofNat_toNat {b : UInt8} (h : b < 0x80) : (Char.ofNat b.toNat).toUInt8 = b := by
  have hall : ∀ n < 128, (Char.ofNat n).toUInt8 = UInt8.ofNat n := by decide
  have hb : b.toNat < 128 := UInt8.lt_iff_toNat_lt.1 h
  rw [hall _ hb, UInt8.ofNat_toNat]

namespace Utf8

lemma utf8EncodeChar_of_ascii {c : Char} (hc : c.toNat < 128) :
    String.utf8EncodeChar c = [c.toUInt8] :=
  forall_ascii (P := fun c => String.utf8EncodeChar c = [c.toUInt8]) (by decide) hc

/-- A text of ASCII characters is spelled character by character. -/
theorem encode_of_ascii {cs : List Char} (h : ∀ c ∈ cs, c.toNat < 128) :
    encode cs = cs.map Char.toUInt8 := by
  induction cs with
  | nil => rfl
  | cons c cs ih =>
      rw [encode_cons, utf8EncodeChar_of_ascii (h c List.mem_cons_self),
        ih fun d hd => h d (List.mem_cons_of_mem _ hd)]
      rfl

lemma encode_cons_of_ascii {c : Char} (hc : c.toNat < 128) (cs : List Char) :
    encode (c :: cs) = c.toUInt8 :: encode cs := by
  rw [encode_cons, utf8EncodeChar_of_ascii hc, List.singleton_append]

/-- The octets of the characters outside ASCII are outside ASCII too. -/
lemma le_of_mem_utf8EncodeChar {c : Char} (hc : 128 ≤ c.toNat) {b : UInt8}
    (hb : b ∈ String.utf8EncodeChar c) : 128 ≤ b.toNat := by
  have hval : 128 ≤ c.val.toNat := hc
  rw [String.utf8EncodeChar] at hb
  rw [if_neg (by omega)] at hb
  split at hb <;> try split at hb
  all_goals
    simp only [List.mem_cons, List.not_mem_nil, or_false] at hb
    rcases hb with rfl | rfl | rfl | rfl <;> simp <;> omega

lemma toUInt8_injOn {c d : Char} (hc : c.toNat < 128) (hd : d.toNat < 128)
    (h : c.toUInt8 = d.toUInt8) : c = d := by
  have hcode : c.toUInt8.toNat = d.toUInt8.toNat := congrArg UInt8.toNat h
  rw [Char.toUInt8, Char.toUInt8, UInt32.toNat_toUInt8, UInt32.toNat_toUInt8] at hcode
  rw [← Char.toNat_inj]
  change c.val.toNat < 128 at hc
  change d.val.toNat < 128 at hd
  change c.val.toNat = d.val.toNat
  omega

/-- An ASCII octet in the spelling of a text stands for its character. -/
theorem toUInt8_mem_encode_iff {c : Char} (hc : c.toNat < 128) {cs : List Char} :
    c.toUInt8 ∈ encode cs ↔ c ∈ cs := by
  rw [encode, List.mem_flatMap]
  constructor
  · rintro ⟨d, hd, hmem⟩
    rcases Nat.lt_or_ge d.toNat 128 with hlt | hge
    · rw [utf8EncodeChar_of_ascii hlt, List.mem_singleton] at hmem
      rwa [toUInt8_injOn hc hlt hmem]
    · have hhigh := le_of_mem_utf8EncodeChar hge hmem
      rw [Char.toUInt8, UInt32.toNat_toUInt8] at hhigh
      change c.val.toNat < 128 at hc
      omega
  · intro h
    refine ⟨c, h, ?_⟩
    rw [utf8EncodeChar_of_ascii hc]
    exact List.mem_singleton_self _

/-- The spelling of a text can be cut in front of an ASCII octet, and both parts are spellings
of texts. -/
theorem exists_cut_of_ascii {cs : List Char} {xs ys : Octets} {b : UInt8} (hb : b < 0x80)
    (h : encode cs = xs ++ b :: ys) :
    ∃ before after, cs = before ++ after ∧ encode before = xs ∧ encode after = b :: ys := by
  induction cs generalizing xs with
  | nil => exact absurd h.symm (List.append_ne_nil_of_right_ne_nil _ (List.cons_ne_nil _ _))
  | cons c cs ih =>
      rw [encode_cons, List.append_eq_append_iff] at h
      obtain ⟨xs', rfl, hcs⟩ | ⟨tail, hc, hcs⟩ := h
      · obtain ⟨before, after, rfl, rfl, hafter⟩ := ih hcs
        exact ⟨c :: before, after, rfl, rfl, hafter⟩
      · cases tail with
        | nil =>
            refine ⟨[c], cs, rfl, ?_, hcs.symm⟩
            rw [encode_cons, encode_nil, hc, List.append_nil, List.append_nil]
        | cons d tail =>
            -- the octet stands inside of `c`, which then is that octet alone
            obtain ⟨rfl, rfl⟩ := List.cons.inj hcs
            have hmem : b ∈ String.utf8EncodeChar c := by
              rw [hc]
              exact List.mem_append_right _ List.mem_cons_self
            have hascii : c.toNat < 128 := by
              by_contra hge
              have hhigh := le_of_mem_utf8EncodeChar (Nat.not_lt.1 hge) hmem
              exact absurd (UInt8.lt_iff_toNat_lt.1 hb) (Nat.not_lt.2 hhigh)
            have hone := utf8EncodeChar_of_ascii hascii
            rw [hc] at hone
            obtain ⟨rfl, hrest⟩ := List.append_eq_singleton_iff.1 hone |>.resolve_right (by simp)
            refine ⟨[], c :: cs, rfl, rfl, ?_⟩
            rw [encode_cons, hc]
            rfl

end Utf8

/-! ### Octets that spell a text -/

namespace Octets

/-- Octets that are the spelling of some text. -/
def IsText (bs : Octets) : Prop := ∃ s, bs = ofString s

lemma isText_ofString (s : String) : IsText (ofString s) := ⟨s, rfl⟩

lemma IsText.of_append {xs ys : Octets} {b : UInt8} (hb : b < 0x80)
    (h : IsText (xs ++ b :: ys)) : IsText xs ∧ IsText (b :: ys) := by
  obtain ⟨s, hs⟩ := h
  obtain ⟨before, after, -, hbefore, hafter⟩ := Utf8.exists_cut_of_ascii hb hs.symm
  refine ⟨⟨String.ofList before, ?_⟩, ⟨String.ofList after, ?_⟩⟩
  · rw [ofString, String.toList_ofList, hbefore]
  · rw [ofString, String.toList_ofList, hafter]

/-- A text is cut at the first ASCII octet of some kind. -/
lemma IsText.takeWhile {p : UInt8 → Bool} (hp : ∀ b, p b = false → b < 0x80) {bs : Octets}
    (h : IsText bs) : IsText (bs.takeWhile p) := by
  have hsplit : bs.takeWhile p ++ bs.dropWhile p = bs := List.takeWhile_append_dropWhile
  cases hdrop : bs.dropWhile p with
  | nil =>
      rw [hdrop, List.append_nil] at hsplit
      rwa [hsplit]
  | cons b ys =>
      have hb : p b = false := by
        have hhead := List.head?_dropWhile_not p bs
        rw [hdrop] at hhead
        simpa using hhead
      rw [hdrop] at hsplit
      rw [← hsplit] at h
      exact (h.of_append (hp b hb)).1

/-- ASCII octets are a text. -/
lemma isText_of_ascii {bs : Octets} (h : ∀ b ∈ bs, b < 0x80) : IsText bs := by
  refine ⟨String.ofList (bs.map fun b => Char.ofNat b.toNat), ?_⟩
  have hascii : ∀ c ∈ bs.map fun b => Char.ofNat b.toNat, c.toNat < 128 := by
    intro c hc
    obtain ⟨b, hb, rfl⟩ := List.mem_map.1 hc
    have hall : ∀ n < 128, (Char.ofNat n).toNat < 128 := by decide
    exact hall _ (UInt8.lt_iff_toNat_lt.1 (h b hb))
  rw [ofString, String.toList_ofList, Utf8.encode_of_ascii hascii, List.map_map]
  have hback : ∀ b ∈ bs, (Char.toUInt8 ∘ fun b => Char.ofNat b.toNat) b = b := fun b hb =>
    toUInt8_ofNat_toNat (h b hb)
  rw [List.map_congr_left hback, List.map_id']

end Octets

namespace Percent

/-- Octets without a percent sign hold no escape. -/
lemma decode_of_not_mem {bs : Octets} (h : '%'.toUInt8 ∉ bs) : decode bs = bs := by
  induction bs with
  | nil => exact decode_nil
  | cons b bs ih =>
      rw [List.mem_cons, not_or] at h
      rw [decode_cons_of_ne (Ne.symm h.1), ih h.2]

/-- A text without a percent sign is not changed by decoding. -/
theorem decode_encode {cs : List Char} (h : '%' ∉ cs) :
    decode (Utf8.encode cs) = Utf8.encode cs := by
  apply decode_of_not_mem
  rwa [Utf8.toUInt8_mem_encode_iff (by decide)]

end Percent

end ResultPages
