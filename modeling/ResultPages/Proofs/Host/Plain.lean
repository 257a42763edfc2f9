/-
Hosts that are read as they stand.

A host of ASCII letters, digits and hyphens between dots is taken through the whole reader:
nothing in it is dropped as white space, it has no port, no brackets and no escapes, and none
of its characters is forbidden in a name.  So it is the name in lower case, unless it has to
be read as an address or holds an encoded label.
-/
import Mathlib.Data.List.TakeWhile
import ResultPages.Host.Authority
import ResultPages.Proofs.Text.Ascii
import ResultPages.Proofs.Text.Utf8

namespace ResultPages

/-! ### Ordinary characters -/

/-- The characters of ordinary host names. -/
def isPlainChar (c : Char) : Bool :=
  ('0' ≤ c && c ≤ '9') || ('A' ≤ c && c ≤ 'Z') || ('a' ≤ c && c ≤ 'z') || c == '-' || c == '.'

lemma toNat_of_isPlainChar {c : Char} (h : isPlainChar c) : 0x20 < c.toNat ∧ c.toNat < 128 := by
  simp only [isPlainChar, Bool.or_eq_true, Bool.and_eq_true, decide_eq_true_eq, beq_iff_eq,
    Char.le_def, UInt32.le_iff_toNat_le] at h
  change ((((48 ≤ c.toNat ∧ c.toNat ≤ 57) ∨ (65 ≤ c.toNat ∧ c.toNat ≤ 90)) ∨
    (97 ≤ c.toNat ∧ c.toNat ≤ 122)) ∨ c = '-') ∨ c = '.' at h
  rcases h with (h | rfl) | rfl
  · omega
  · decide
  · decide

lemma isPlainChar_toLower {c : Char} (h : isPlainChar c) : isPlainChar c.toLower :=
  forall_ascii (P := fun c => isPlainChar c → isPlainChar c.toLower) (by decide)
    (toNat_of_isPlainChar h).2 h

lemma Name.isForbidden_eq (c : Char) : Name.isForbidden c =
    (c.toNat ≤ 0x20 || c.toNat == 0x7F ||
      ['%', '#', '/', ':', '<', '>', '?', '@', '[', '\\', ']', '^', '|'].contains c) := by
  rw [Name.isForbidden, String.toList_ofList]

/-- No character of an ordinary name is forbidden. -/
lemma isForbidden_of_isPlainChar {c : Char} (h : isPlainChar c) :
    Name.isForbidden c = false := by
  rw [Name.isForbidden_eq]
  exact forall_ascii (P := fun c => isPlainChar c → (c.toNat ≤ 0x20 || c.toNat == 0x7F ||
      ['%', '#', '/', ':', '<', '>', '?', '@', '[', '\\', ']', '^', '|'].contains c) = false)
    (by decide) (toNat_of_isPlainChar h).2 h

/-! ### What the reader leaves alone -/

namespace Authority

lemma clean_eq_self {cs : List Char} (h : ∀ c ∈ cs, 0x20 < c.toNat) : clean cs = cs := by
  have htrim : trimEnd (·.toNat ≤ 0x20) cs = cs := by
    rw [trimEnd, List.reverse_eq_iff, List.dropWhile_eq_self_iff]
    intro hlen hlow
    have := h _ (List.mem_reverse.1 (List.getElem_mem hlen))
    have := of_decide_eq_true hlow
    omega
  rw [clean, htrim, List.filter_eq_self]
  intro c hc
  have := h c hc
  refine decide_eq_true ⟨?_, ?_, ?_⟩
  all_goals
    rintro rfl
    exact absurd this (by decide)

/-- No colon of a text ends its host. -/
def IsClosed (host : List Char) : Prop :=
  ∀ rest, cutPort false (host ++ rest) = (host ++ (cutPort false rest).1, (cutPort false rest).2)

lemma IsClosed.cutPort_eq {host : List Char} (h : IsClosed host) :
    cutPort false host = (host, none) := by
  have hnil := h []
  rwa [List.append_nil, cutPort, List.append_nil] at hnil

lemma isClosed_of_not_mem {host : List Char} (hcolon : ':' ∉ host) (hopen : '[' ∉ host) :
    IsClosed host := by
  intro rest
  induction host with
  | nil => rfl
  | cons c host ih =>
      rw [List.mem_cons, not_or] at hcolon hopen
      have hc : ¬ (c = ':' ∧ (!false) = true) := fun h => hcolon.1 h.1.symm
      -- without an opening bracket the reader stays outside brackets
      have hinside : (c = '[' || (false && c ≠ ']')) = false := by
        simpa using Ne.symm hopen.1
      rw [List.cons_append, cutPort, if_neg hc, hinside, ih hcolon.2 hopen.2]
      rfl

lemma isClosed_of_isPlainChar {host : List Char} (h : ∀ c ∈ host, isPlainChar c) :
    IsClosed host :=
  isClosed_of_not_mem (fun hc => absurd (h _ hc) (by decide))
    (fun hc => absurd (h _ hc) (by decide))

end Authority

namespace Host

/-- A text without brackets and escapes is read as a name or an address. -/
lemma parse_eq_of_not_mem {cs : List Char} (hne : cs ≠ []) (hopen : '[' ∉ cs)
    (hpercent : '%' ∉ cs) : parse cs = match Name.toAscii? cs with
      | some ascii => ofAscii ascii
      | none => .error .invalidName := by
  have hunbracketed : parse cs = ofUnbracketed cs := by
    match cs, hne, hopen with
    | c :: cs, _, hopen =>
        rw [parse]
        · simp
        · rintro rest heq
          simp [heq] at hopen
  have hread : (Utf8.decode? (Percent.decode (Utf8.encode cs))).bind Name.toAscii? =
      Name.toAscii? cs := by
    rw [Percent.decode_encode hpercent, Utf8.decode?_eq_some_iff.2 rfl, Option.bind_some]
  rw [hunbracketed]
  exact congrArg (fun read : Option (List Char) => match read with
    | some ascii => ofAscii ascii
    | none => .error .invalidName) hread

end Host

/-- Without an `x` there is no encoded label. -/
lemma Name.isPlain_of_not_mem {cs : List Char} (hascii : ∀ c ∈ cs, c.toNat < 128)
    (hx : 'x' ∉ cs) : isPlain cs := by
  rw [isPlain, Bool.and_eq_true, List.all_eq_true, List.all_eq_true]
  refine ⟨fun c hc => decide_eq_true (hascii c hc), fun l hl => ?_⟩
  rw [Bool.not_eq_true', Bool.eq_false_iff]
  intro hmark
  obtain ⟨rest, rfl⟩ := List.isPrefixOf_iff_prefix.1 hmark
  refine hx (mem_of_mem_piece hl (List.mem_append_left _ ?_))
  rw [encodedMark, String.toList_ofList]
  exact List.mem_cons_self

/-- A name of ordinary characters is put into lower case. -/
lemma Name.toAscii?_of_isPlainChar {cs : List Char} (hcs : ∀ c ∈ cs, isPlainChar c)
    (hplain : isPlain (cs.map Char.toLower)) : toAscii? cs = some (cs.map Char.toLower) := by
  rw [toAscii?]
  simp only [hplain, if_true]
  rw [plain?, if_neg]
  simp only [List.any_map, List.any_eq_true, Function.comp_apply, not_exists, not_and]
  intro c hc
  rw [isForbidden_of_isPlainChar (isPlainChar_toLower (hcs c hc))]
  exact Bool.false_ne_true

/-- The reader of hosts on ordinary characters. -/
lemma Host.parse_of_isPlainChar {cs : List Char} (hcs : ∀ c ∈ cs, isPlainChar c)
    (hne : cs ≠ []) (hplain : Name.isPlain (cs.map Char.toLower)) :
    parse cs = ofAscii (cs.map Char.toLower) := by
  have hpercent : '%' ∉ cs := fun h => absurd (hcs _ h) (by decide)
  have hopen : '[' ∉ cs := fun h => absurd (hcs _ h) (by decide)
  rw [parse_eq_of_not_mem hne hopen hpercent, Name.toAscii?_of_isPlainChar hcs hplain]

/-- The reader of hosts on an ordinary name. -/
theorem Authority.parse_of_isPlainChar {cs : List Char} (hcs : cs.all isPlainChar)
    (hne : cs ≠ []) (hplain : Name.isPlain (cs.map Char.toLower))
    (hname : Ipv4.isNumeric (cs.map Char.toLower) = false) :
    parse cs = .ok ⟨.name (cs.map Char.toLower), none⟩ := by
  rw [List.all_eq_true] at hcs
  have hlow : ∀ c ∈ cs, 0x20 < c.toNat := fun c hc => (toNat_of_isPlainChar (hcs c hc)).1
  rw [parse, clean_eq_self hlow, (isClosed_of_isPlainChar hcs).cutPort_eq,
    Host.parse_of_isPlainChar hcs hne hplain]
  simp [Host.ofAscii, hne, hname, port?]

end ResultPages
