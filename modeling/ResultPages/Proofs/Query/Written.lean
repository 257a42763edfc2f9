/-
Reading a query that has been written.

A part of a piece is written character by character, and `spells_writeChar` says that each
character is written so that it spells its octets, whatever stands behind it.  The written
characters are literals, plus and percent signs, so neither `&` nor `=` can stand in a written
part, and the one piece of a written query is cut where it was put together: its key and its
value are read back, whatever texts they are (`pairs_write`).
-/
import Mathlib.Tactic.Common
import ResultPages.Proofs.Query.Octets
import ResultPages.Proofs.Text.Ascii

namespace ResultPages

namespace Query

/-! ### The characters of a written part -/

/-- The characters that a written part is made of. -/
def isWritten (c : Char) : Bool := isLiteral c || c == '+' || c == '%'

lemma toNat_lt_of_isLiteral {c : Char} (h : isLiteral c) : c.toNat < 128 := by
  simp only [isLiteral, Bool.or_eq_true, Bool.and_eq_true, decide_eq_true_eq,
    List.contains_iff_mem, List.mem_cons, List.not_mem_nil, or_false, Char.le_def,
    UInt32.le_iff_toNat_le] at h
  change (((48 ≤ c.toNat ∧ c.toNat ≤ 57) ∨ (65 ≤ c.toNat ∧ c.toNat ≤ 90)) ∨
    (97 ≤ c.toNat ∧ c.toNat ≤ 122)) ∨ (c = '*' ∨ c = '-' ∨ c = '.' ∨ c = '_') at h
  rcases h with h | rfl | rfl | rfl | rfl
  · omega
  all_goals decide

lemma toNat_lt_of_isWritten {c : Char} (h : isWritten c) : c.toNat < 128 := by
  simp only [isWritten, Bool.or_eq_true, beq_iff_eq] at h
  rcases h with (h | rfl) | rfl
  · exact toNat_lt_of_isLiteral h
  all_goals decide

/-- A digit is a literal character. -/
lemma isLiteral_of_isDigitOf {n : Nat} (hn : n < 16) {c : Char} (h : IsDigitOf n c) :
    isLiteral c := by
  have hall : ∀ n < 16, isLiteral (Nat.digitChar n) ∧ isLiteral (Nat.digitChar n).toUpper := by
    decide
  rcases h with rfl | rfl
  · exact (hall n hn).1
  · exact (hall n hn).2

/-- The digits of an octet are literal characters. -/
lemma isLiteral_of_digits {b : UInt8} {high low : Char} (hhigh : IsDigitOf (b.toNat / 16) high)
    (hlow : IsDigitOf (b.toNat % 16) low) : isLiteral high ∧ isLiteral low := by
  have hb := b.toNat_lt
  exact ⟨isLiteral_of_isDigitOf (by omega) hhigh, isLiteral_of_isDigitOf (by omega) hlow⟩

/-- An escape is made of the digits of its octet. -/
lemma exists_escape_eq (b : UInt8) : ∃ high low, Percent.escape b = ['%', high, low] ∧
    IsDigitOf (b.toNat / 16) high ∧ IsDigitOf (b.toNat % 16) low :=
  ⟨_, _, rfl, Or.inr rfl, Or.inr rfl⟩

lemma isWritten_of_isLiteral {c : Char} (h : isLiteral c) : isWritten c := by
  rw [isWritten, h, Bool.true_or, Bool.true_or]

lemma isWritten_of_mem_writeChar {c d : Char} (h : d ∈ writeChar c) : isWritten d := by
  rw [writeChar] at h
  split at h
  · rw [List.mem_singleton] at h
    rw [h]
    decide
  · split at h
    · next hc =>
      rw [List.mem_singleton] at h
      rw [h]
      exact isWritten_of_isLiteral hc
    · obtain ⟨b, -, hd⟩ := List.mem_flatMap.1 h
      obtain ⟨high, low, heq, hhigh, hlow⟩ := exists_escape_eq b
      obtain ⟨hhigh, hlow⟩ := isLiteral_of_digits hhigh hlow
      simp only [heq, List.mem_cons, List.not_mem_nil, or_false] at hd
      rcases hd with rfl | rfl | rfl
      · decide
      · exact isWritten_of_isLiteral hhigh
      · exact isWritten_of_isLiteral hlow

theorem isWritten_of_mem_writePart {cs : List Char} {d : Char} (h : d ∈ writePart cs) :
    isWritten d := by
  obtain ⟨c, -, hd⟩ := List.mem_flatMap.1 h
  exact isWritten_of_mem_writeChar hd

/-- Literal characters are written as they stand. -/
lemma writePart_of_isLiteral {cs : List Char} (h : ∀ c ∈ cs, isLiteral c) : writePart cs = cs := by
  induction cs with
  | nil => rfl
  | cons c cs ih =>
      have hc := h c List.mem_cons_self
      have hspace : c ≠ ' ' := by
        rintro rfl
        exact absurd hc (by decide)
      rw [writePart, List.flatMap_cons, writeChar, if_neg hspace, if_pos hc,
        List.singleton_append]
      exact congrArg (c :: ·) (ih fun d hd => h d (List.mem_cons_of_mem _ hd))

/-! ### What a written part spells -/

lemma Spells.literal {c : Char} {part bs : Octets} (hc : isLiteral c) (h : Spells part bs) :
    Spells (c.toUInt8 :: part) (c.toUInt8 :: bs) := by
  have hne : c.toUInt8 ≠ '+'.toUInt8 ∧ c.toUInt8 ≠ '%'.toUInt8 :=
    forall_ascii (P := fun c => isLiteral c → c.toUInt8 ≠ '+'.toUInt8 ∧ c.toUInt8 ≠ '%'.toUInt8)
      (by decide) (toNat_lt_of_isLiteral hc) hc
  refine Spells.self hne.1 ?_ h
  rintro ⟨_, _, _, _, heq, -⟩
  exact hne.2 (List.cons.inj heq).1

lemma Spells.escapes {part bs : Octets} (h : Spells part bs) (os : Octets) :
    Spells (Utf8.encode (os.flatMap Percent.escape) ++ part) (os ++ bs) := by
  induction os with
  | nil => exact h
  | cons b os ih =>
      obtain ⟨high, low, heq, hhigh, hlow⟩ := exists_escape_eq b
      obtain ⟨hliteral, hliteral'⟩ := isLiteral_of_digits hhigh hlow
      rw [List.flatMap_cons, heq, List.cons_append, List.cons_append, List.singleton_append,
        Utf8.encode_cons_of_ascii (by decide),
        Utf8.encode_cons_of_ascii (toNat_lt_of_isLiteral hliteral),
        Utf8.encode_cons_of_ascii (toNat_lt_of_isLiteral hliteral')]
      exact Spells.escape ⟨high, low, rfl, rfl, hhigh, hlow⟩ ih

/-- A character is written so that it spells its octets. -/
lemma spells_writeChar (c : Char) {part bs : Octets} (h : Spells part bs) :
    Spells (Utf8.encode (writeChar c) ++ part) (String.utf8EncodeChar c ++ bs) := by
  rw [writeChar]
  split
  · next hc =>
    subst hc
    exact Spells.plus h
  · split
    · next hc =>
      rw [Utf8.encode_cons_of_ascii (toNat_lt_of_isLiteral hc),
        Utf8.utf8EncodeChar_of_ascii (toNat_lt_of_isLiteral hc)]
      exact Spells.literal hc h
    · exact h.escapes _

theorem spells_writePart (cs : List Char) :
    Spells (Utf8.encode (writePart cs)) (Utf8.encode cs) := by
  induction cs with
  | nil => exact Spells.nil
  | cons c cs ih =>
      rw [writePart, List.flatMap_cons, Utf8.encode_append]
      exact spells_writeChar c ih

/-- Whatever text a part spells, it is read as that text. -/
lemma readPart_of_spells {part : Octets} {s : String} (h : Spells part (.ofString s)) :
    readPart part = s := by
  rw [readPart, spells_iff.1 h]
  exact Octets.toStringLossy_ofString s

/-! ### The one piece of a written query -/

lemma toUInt8_not_mem_writePart {c : Char} (hc : c ∈ ['&', '=']) (cs : List Char) :
    c.toUInt8 ∉ Utf8.encode (writePart cs) := by
  have hspecial : c.toNat < 128 ∧ ¬ isWritten c := by
    simp only [List.mem_cons, List.not_mem_nil, or_false] at hc
    rcases hc with rfl | rfl <;> decide
  rw [Utf8.toUInt8_mem_encode_iff hspecial.1]
  exact fun hmem => hspecial.2 (isWritten_of_mem_writePart hmem)

lemma ofString_write (key value : String) : Octets.ofString (write key value) =
    Utf8.encode (writePart key.toList) ++ '='.toUInt8 ::
      Utf8.encode (writePart value.toList) := by
  rw [Octets.ofString, write, String.toList_ofList, Utf8.encode_append,
    Utf8.encode_cons_of_ascii (by decide)]

/-- A piece is read as the texts that its key and its value spell. -/
theorem pairs_of_spells {key value : Octets} {k v : String} (hkey : Spells key (.ofString k))
    (hvalue : Spells value (.ofString v)) (hequals : '='.toUInt8 ∉ key)
    (hamp : '&'.toUInt8 ∉ key ++ value) : pairs (key ++ '='.toUInt8 :: value) = [(k, v)] := by
  have hpiece : '&'.toUInt8 ∉ key ++ '='.toUInt8 :: value := by
    rw [List.mem_append, not_or] at hamp
    rw [List.mem_append, List.mem_cons, not_or, not_or]
    exact ⟨hamp.1, by decide, hamp.2⟩
  have hcut : keyValue (key ++ '='.toUInt8 :: value) = (key, value) :=
    keyValue_eq_iff.2 ⟨hequals, Or.inl rfl⟩
  rw [pairs, pieces_of_not_mem hpiece]
  simp [hcut, readPart_of_spells hkey, readPart_of_spells hvalue]

/-- What is written as one piece is read as one pair. -/
theorem pairs_write (key value : String) :
    pairs (.ofString (write key value)) = [(key, value)] := by
  rw [ofString_write]
  refine pairs_of_spells (spells_writePart _) (spells_writePart _)
    (toUInt8_not_mem_writePart (by decide) _) ?_
  rw [List.mem_append, not_or]
  exact ⟨toUInt8_not_mem_writePart (by decide) _, toUInt8_not_mem_writePart (by decide) _⟩

theorem status?_write (value : String) :
    status? (.ofString (write statusKey value)) = some value := by
  rw [status?, first?, pairs_write]
  simp

end Query

end ResultPages
