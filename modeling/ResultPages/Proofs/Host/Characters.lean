/-
Which characters stand in the canonical text of a host.

Whatever a host is spelled like, its text is put together from letters, digits and hyphens,
from the characters of names that were found not to be forbidden, and from dots, colons and
brackets.  Forbidden characters cannot come in later: a name is searched for them after it has
been mapped, a decoded label may hold only characters that mapping leaves alone and that are
not forbidden, and Punycode writes letters, digits and hyphens.
-/
import ResultPages.Proofs.Host.Numbers

namespace ResultPages

/-- The characters that stand in the text of a name. -/
def isNameChar (c : Char) : Bool := Name.isAscii c && !Name.isForbidden c

/-- The characters that stand in the text of a host with a port. -/
def isAuthorityChar (c : Char) : Bool := isNameChar c || [':', '[', ']'].contains c

lemma isNameChar_iff {c : Char} :
    isNameChar c ↔ c.toNat < 128 ∧ Name.isForbidden c = false := by
  simp [isNameChar, Name.isAscii]

lemma isNameChar_of_isPlainChar {c : Char} (h : isPlainChar c) : isNameChar c :=
  isNameChar_iff.2 ⟨(toNat_of_isPlainChar h).2, isForbidden_of_isPlainChar h⟩

lemma isAuthorityChar_of_isNameChar {c : Char} (h : isNameChar c) : isAuthorityChar c := by
  rw [isAuthorityChar, h, Bool.true_or]

lemma isAuthorityChar_of_isPlainChar {c : Char} (h : isPlainChar c) : isAuthorityChar c :=
  isAuthorityChar_of_isNameChar (isNameChar_of_isPlainChar h)

lemma isAuthorityChar_of_mem_marks {c : Char} (h : c ∈ [':', '[', ']']) : isAuthorityChar c := by
  rw [isAuthorityChar, List.contains_iff_mem.2 h, Bool.or_true]

/-- They are printable characters of ASCII and none that separates parts of an address. -/
lemma of_isAuthorityChar {c : Char} (h : isAuthorityChar c) :
    (0x20 < c.toNat ∧ c.toNat < 0x7F) ∧ c ∉ ['/', '\\', '?', '#', '@', '%'] := by
  rw [isAuthorityChar, Bool.or_eq_true, List.contains_iff_mem] at h
  rcases h with h | h
  · obtain ⟨hascii, hclear⟩ := isNameChar_iff.1 h
    simp only [Name.isForbidden_eq, Bool.or_eq_false_iff, decide_eq_false_iff_not,
      beq_eq_false_iff_ne] at hclear
    obtain ⟨⟨hlow, hdelete⟩, hmarks⟩ := hclear
    refine ⟨by omega, fun hc => ?_⟩
    simp only [List.mem_cons, List.not_mem_nil, or_false] at hc
    rcases hc with rfl | rfl | rfl | rfl | rfl | rfl <;> exact absurd hmarks (by decide)
  · simp only [List.mem_cons, List.not_mem_nil, or_false] at h
    rcases h with rfl | rfl | rfl <;> decide

lemma not_isBlank_of_isAuthorityChar {c : Char} (h : isAuthorityChar c) : ¬ isBlank c := by
  obtain ⟨⟨hlow, hhigh⟩, -⟩ := of_isAuthorityChar h
  simp only [isBlank, Bool.or_eq_true, Bool.and_eq_true, decide_eq_true_eq, beq_iff_eq]
  omega

/-! ### Punycode -/

namespace Punycode

/-- A digit, or the hyphen in front of the digits. -/
def IsWritten (c : Char) : Prop := (∃ n < 36, c = digit n) ∨ c = '-'

lemma IsWritten.isPlainChar {c : Char} (h : IsWritten c) : isPlainChar c := by
  rcases h with ⟨n, hn, rfl⟩ | rfl
  · have hall : ∀ n < 36, ResultPages.isPlainChar (digit n) := by decide
    exact hall n hn
  · decide

lemma isWritten_of_mem_digits {c : Char} {bias k q : Nat} (h : c ∈ digits bias k q) :
    IsWritten c := by
  have hpos := threshold_pos k bias
  have hle := threshold_le k bias
  rw [digits] at h
  split at h
  · rw [List.mem_singleton] at h
    exact Or.inl ⟨q, by omega, h⟩
  · rcases List.mem_cons.1 h with rfl | h
    · -- a digit that does not end the number is at least the threshold, and below 36 too
      have hmod : (q - threshold k bias) % (36 - threshold k bias) < 36 - threshold k bias :=
        Nat.mod_lt _ (by omega)
      exact Or.inl ⟨_, by omega, rfl⟩
    · exact isWritten_of_mem_digits h
termination_by q
decreasing_by exact Nat.lt_of_le_of_lt (Nat.div_le_self _ _) (by omega)

/-- A writer has put out only digits. -/
def Writer.InDigits (w : Writer) : Prop := ∀ c ∈ w.out, IsWritten c

lemma Writer.inDigits_pass {basic code : Nat} {w : Writer} (hw : w.InDigits) (c : Char) :
    (w.pass basic code c).InDigits := by
  rw [Writer.pass]
  split
  · exact hw
  · split
    · intro d hd
      rcases List.mem_append.1 hd with hd | hd
      · exact hw d hd
      · exact isWritten_of_mem_digits hd
    · exact hw

lemma Writer.inDigits_round {text : List Char} {basic : Nat} {acc : Writer × Nat}
    (hacc : acc.1.InDigits) (code : Nat) : (Writer.round text basic acc code).1.InDigits := by
  have hall : (text.foldl (Writer.pass basic code)
      { acc.1 with delta := acc.1.delta + (code - acc.2) * (acc.1.done + 1) }).InDigits :=
    List.foldlRecOn text _ hacc fun w hw c _ => Writer.inDigits_pass hw c
  exact hall

/-- Besides the ASCII characters of the text, only digits and a hyphen are written. -/
theorem of_mem_encode {text : List Char} {c : Char} (h : c ∈ encode text) :
    (c ∈ text ∧ c.toNat < 128) ∨ IsWritten c := by
  have hout : ((foreign text).foldl (Writer.round text (text.filter (·.toNat < 128)).length)
      (⟨[], 0, 72, (text.filter (·.toNat < 128)).length⟩, 128)).1.InDigits := by
    -- at first nothing has been put out, and every round keeps to digits
    refine List.foldlRecOn (foreign text)
      (motive := fun acc : Writer × Nat => acc.1.InDigits) _ ?_ ?_
    · exact fun c hc => absurd hc List.not_mem_nil
    · exact fun acc hacc code _ => Writer.inDigits_round hacc code
  rw [encode] at h
  rcases List.mem_append.1 h with h | h
  · split at h
    · exact absurd h List.not_mem_nil
    · rcases List.mem_append.1 h with h | h
      · rw [List.mem_filter] at h
        exact Or.inl ⟨h.1, of_decide_eq_true h.2⟩
      · rw [List.mem_singleton] at h
        exact Or.inr (Or.inr h)
  · exact Or.inr (hout c h)

end Punycode

/-! ### Names -/

namespace Name

/-- No forbidden character stands in a text. -/
def IsClear (cs : List Char) : Prop := ∀ c ∈ cs, isForbidden c = false

lemma isClear_of_decodeLabel? {label cs : List Char} (hlabel : IsClear label)
    (h : decodeLabel? label = some cs) : IsClear cs := by
  rw [decodeLabel?] at h
  split at h
  · -- an encoded label may hold only what mapping leaves alone
    simp only at h
    split at h
    · cases h
    · rw [Option.bind_eq_some_iff] at h
      obtain ⟨ds, -, h⟩ := h
      split at h
      · next hkept =>
        obtain rfl := Option.some.inj h
        intro c hc
        have hc := List.all_eq_true.1 hkept.1 c hc
        simp only [isKept, Bool.and_eq_true, Bool.not_eq_true'] at hc
        exact hc.1.2
      · cases h
  · obtain rfl := Option.some.inj h
    exact hlabel

lemma isClear_of_soundLabels? {cs : List Char} {ls : List (List Char)}
    (h : soundLabels? cs = some ls) : ∀ l ∈ ls, IsClear l := by
  rw [soundLabels?] at h
  split at h
  · cases h
  · next hcs =>
    have hclear : IsClear cs := by simpa [IsClear] using hcs
    rw [Option.bind_eq_some_iff] at h
    obtain ⟨ls', hls, h⟩ := h
    split at h
    · obtain rfl := Option.some.inj h
      intro l hl
      obtain ⟨label, hlabel, hdecode⟩ := exists_of_mem_mapM hls hl
      exact isClear_of_decodeLabel? (fun c hc => hclear c (mem_of_mem_piece hlabel hc)) hdecode
    · cases h

lemma isNameChar_of_mem_encodeLabel {label : List Char} (hlabel : IsClear label) {c : Char}
    (h : c ∈ encodeLabel label) : isNameChar c := by
  rw [encodeLabel] at h
  split at h
  · next hascii =>
    rw [isNameChar, List.all_eq_true.1 hascii c h, hlabel c h]
    rfl
  · rcases List.mem_append.1 h with h | h
    · rw [encodedMark, String.toList_ofList] at h
      have hmark : ['x', 'n', '-', '-'].all isPlainChar := by decide
      exact isNameChar_of_isPlainChar (List.all_eq_true.1 hmark c h)
    · rcases Punycode.of_mem_encode h with ⟨hc, hlt⟩ | hc
      · exact isNameChar_iff.2 ⟨hlt, hlabel c hc⟩
      · exact isNameChar_of_isPlainChar hc.isPlainChar

/-- The ASCII form of a name holds no forbidden character. -/
theorem isNameChar_of_toAscii? {cs name : List Char} (h : toAscii? cs = some name) :
    ∀ c ∈ name, isNameChar c := by
  intro c hc
  rw [toAscii?] at h
  split at h
  · next hplain =>
    rw [plain?] at h
    split at h
    · cases h
    · next hclear =>
      obtain rfl := Option.some.inj h
      simp only [isPlain, Bool.and_eq_true, List.all_eq_true] at hplain
      simp only [List.any_eq_true, not_exists, not_and, Bool.not_eq_true] at hclear
      rw [isNameChar, hplain.1 c hc, hclear c hc]
      rfl
  · rw [international?, Option.map_eq_some_iff] at h
    obtain ⟨ls, hls, rfl⟩ := h
    obtain ⟨mapped, -, hsound⟩ := Option.bind_eq_some_iff.1 hls
    rcases mem_join_iff.1 hc with ⟨rfl, -⟩ | ⟨p, hp, hc⟩
    · exact isNameChar_of_isPlainChar (by decide)
    · obtain ⟨l, hl, rfl⟩ := List.mem_map.1 hp
      exact isNameChar_of_mem_encodeLabel (isClear_of_soundLabels? hsound l hl) hc

end Name

/-! ### Addresses -/

lemma isPlainChar_digitChar {n : Nat} (h : n < 16) : isPlainChar (Nat.digitChar n) := by
  have hall : ∀ n < 16, isPlainChar (Nat.digitChar n) := by decide
  exact hall n h

/-- The digits of a number to a base of at most sixteen are plain. -/
lemma isPlainChar_of_mem_toDigits {b : Nat} (hb : 1 < b) (hb' : b ≤ 16) {n : Nat} {c : Char}
    (h : c ∈ Nat.toDigits b n) : isPlainChar c := by
  obtain ⟨m, hm, rfl⟩ := exists_digitChar_of_mem_toDigits hb h
  exact isPlainChar_digitChar (Nat.lt_of_lt_of_le hm hb')

namespace Ipv4

/-- Decimal numbers between dots. -/
def dotted (ns : List Nat) : List Char := join '.' (ns.map (Nat.toDigits 10))

lemma toText_eq_dotted (x : Ipv4) :
    x.toText = dotted [x.a.toNat, x.b.toNat, x.c.toNat, x.d.toNat] := rfl

lemma isPlainChar_of_mem_dotted {ns : List Nat} {c : Char} (h : c ∈ dotted ns) :
    isPlainChar c := by
  rcases mem_join_iff.1 h with ⟨rfl, -⟩ | ⟨p, hp, hc⟩
  · decide
  · obtain ⟨n, -, rfl⟩ := List.mem_map.1 hp
    exact isPlainChar_of_mem_toDigits (by decide) (by decide) hc

lemma isPlainChar_of_mem_toText {x : Ipv4} {c : Char} (h : c ∈ x.toText) : isPlainChar c := by
  rw [toText_eq_dotted] at h
  exact isPlainChar_of_mem_dotted h

end Ipv4

lemma Ipv6.of_mem_toText {x : Ipv6} {c : Char} (h : c ∈ x.toText) :
    isPlainChar c ∨ c = ':' := by
  -- whichever pieces are printed in a row
  have hrow : ∀ ps : List UInt16, c ∈ join ':' (ps.map hex) → isPlainChar c ∨ c = ':' := by
    intro ps hc
    rcases mem_join_iff.1 hc with ⟨hc, -⟩ | ⟨p, hp, hc⟩
    · exact Or.inr hc
    · obtain ⟨n, -, rfl⟩ := List.mem_map.1 hp
      exact Or.inl (isPlainChar_of_mem_toDigits (by decide) (by decide) hc)
  rw [toText] at h
  split at h
  · exact hrow _ h
  · rcases List.mem_append.1 h with h | h
    · rcases List.mem_append.1 h with h | h
      · exact hrow _ h
      · exact Or.inr (by simpa using h)
    · exact hrow _ h

/-! ### Hosts and ports -/

namespace Host

/-- What ASCII text is read as. -/
lemma of_ofAscii {ascii : List Char} {h : Host} (hparse : ofAscii ascii = .ok h) :
    (∃ x, h = .ipv4 x) ∨ ascii ≠ [] ∧ Ipv4.isNumeric ascii = false ∧ h = .name ascii := by
  rw [ofAscii] at hparse
  split at hparse
  · cases hparse
  · next hne =>
    split at hparse
    · split at hparse
      · next x hx => exact Or.inl ⟨x, (Except.ok.inj hparse).symm⟩
      · cases hparse
    · next hname =>
      exact Or.inr ⟨hne, by simpa using hname, (Except.ok.inj hparse).symm⟩

/-- What a text is read as: an address, or the ASCII form of a name. -/
theorem of_parse {cs : List Char} {h : Host} (hparse : parse cs = .ok h) :
    (∃ x, h = .ipv6 x) ∨ (∃ x, h = .ipv4 x) ∨ ∃ ds ascii, Name.toAscii? ds = some ascii ∧
      ascii ≠ [] ∧ Ipv4.isNumeric ascii = false ∧ h = .name ascii := by
  rw [parse.eq_def] at hparse
  split at hparse
  · cases hparse
  · -- in brackets
    rw [ofBracketed] at hparse
    split at hparse
    · split at hparse
      · next x hx => exact Or.inl ⟨x, (Except.ok.inj hparse).symm⟩
      · cases hparse
    · cases hparse
  · rw [ofUnbracketed] at hparse
    split at hparse
    · next ascii hascii =>
      obtain ⟨ds, -, hds⟩ := Option.bind_eq_some_iff.1 hascii
      rcases of_ofAscii hparse with hv4 | hname
      · exact Or.inr (Or.inl hv4)
      · exact Or.inr (Or.inr ⟨ds, ascii, hds, hname⟩)
    · cases hparse

theorem isAuthorityChar_of_mem_toText {cs : List Char} {h : Host} (hparse : parse cs = .ok h)
    {c : Char} (hc : c ∈ h.toText) : isAuthorityChar c := by
  rcases of_parse hparse with ⟨x, rfl⟩ | ⟨x, rfl⟩ | ⟨ds, ascii, hascii, -, -, rfl⟩
  · rcases List.mem_cons.1 hc with rfl | hc
    · exact isAuthorityChar_of_mem_marks (by decide)
    · rcases List.mem_append.1 hc with hc | hc
      · rcases Ipv6.of_mem_toText hc with hc | rfl
        · exact isAuthorityChar_of_isPlainChar hc
        · exact isAuthorityChar_of_mem_marks (by decide)
      · rw [List.mem_singleton] at hc
        exact isAuthorityChar_of_mem_marks (by simp [hc])
  · exact isAuthorityChar_of_isPlainChar (Ipv4.isPlainChar_of_mem_toText hc)
  · exact isAuthorityChar_of_isNameChar (Name.isNameChar_of_toAscii? hascii c hc)

end Host

namespace Authority

/-- What stands in the text of a host with a port that has been read. -/
theorem isAuthorityChar_of_mem_toText {cs : List Char} {a : Authority}
    (hparse : parse cs = .ok a) {c : Char} (hc : c ∈ a.toText) : isAuthorityChar c := by
  rw [parse] at hparse
  split at hparse
  · cases hparse
  · next h hhost =>
    split at hparse
    · cases hparse
    · next port hport =>
      obtain rfl := Except.ok.inj hparse
      rcases List.mem_append.1 hc with hc | hc
      · exact Host.isAuthorityChar_of_mem_toText hhost hc
      · cases port with
        | none => exact absurd hc List.not_mem_nil
        | some n =>
            rcases List.mem_cons.1 hc with rfl | hc
            · exact isAuthorityChar_of_mem_marks (by decide)
            · exact isAuthorityChar_of_isPlainChar
                (isPlainChar_of_mem_toDigits (by decide) (by decide) hc)

/-- No delimiter stands there. -/
theorem not_mem_toText {cs : List Char} {a : Authority} (hparse : parse cs = .ok a) {c : Char}
    (hc : c ∈ ['/', '\\', '?', '#', '@', '%']) : c ∉ a.toText :=
  fun hmem => (of_isAuthorityChar (isAuthorityChar_of_mem_toText hparse hmem)).2 hc

end Authority

end ResultPages
