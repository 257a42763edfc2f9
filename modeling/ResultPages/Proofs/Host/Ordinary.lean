/-
Ordinary names of hosts.

The labels of an ordinary name hold letters, digits and hyphens, none of them is encoded, and the
last one is no number.  Such a name is read as itself in lower case, and a dot behind its last
label stays (`Host.parse_nameText`).
-/
import ResultPages.Proofs.Host.Numbers
import ResultPages.Proofs.Host.Subdomain

namespace ResultPages

/-! ### Ordinary labels -/

/-- Whether a label is a number: decimal, or hexadecimal behind `0x`. -/
def IsNumber (l : List Char) : Prop :=
  (∀ c ∈ l, c.isDigit) ∨ ∃ x ds, l = '0' :: x :: ds ∧ (x = 'x' ∨ x = 'X') ∧
    ∀ c ∈ ds, c.isHexDigit

/-- A label of letters, digits and hyphens that is not encoded. -/
structure IsOrdinary (l : List Char) : Prop where
  ne_nil : l ≠ []
  chars : ∀ c ∈ l, c.isAlphanum ∨ c = '-'
  not_encoded : ¬ "xn--".toList <+: l.map Char.toLower

/-- The labels of an ordinary name. -/
structure IsOrdinaryName (ls : List (List Char)) : Prop where
  ne_nil : ls ≠ []
  ordinary : ∀ l ∈ ls, IsOrdinary l
  not_number : ∀ l, ls.getLast? = some l → ¬ IsNumber l

/-- The dot behind the last label of a name that is given up to the root. -/
def rootDot (rooted : Bool) : List Char := if rooted then ['.'] else []

/-- The text of a name. -/
def nameText (ls : List (List Char)) (rooted : Bool) : List Char := join '.' ls ++ rootDot rooted

lemma isPlainChar_of_isAlphanum {c : Char} (h : c.isAlphanum ∨ c = '-') :
    isPlainChar c ∧ c ≠ '.' := by
  constructor
  · rcases h with h | rfl
    · have hkinds : ((c.isUpper || c.isLower) || c.isDigit) = true := h
      rw [Bool.or_eq_true, Bool.or_eq_true] at hkinds
      rcases hkinds with (h | h) | h
      · have hrange : 'A' ≤ c ∧ c ≤ 'Z' := of_decide_eq_true h
        simp [isPlainChar, hrange]
      · have hrange : ('a' ≤ c && c ≤ 'z') = true := h
        simp [isPlainChar, hrange]
      · exact isPlainChar_of_isDigit h
    · decide
  · rintro rfl
    exact absurd h (by decide)

/-! ### Numbers -/

namespace Ipv4

/-- What is read as a part of an address is a number. -/
lemma isNumber_of_part? {l : List Char} {n : Nat} (h : part? l = some n) : IsNumber l := by
  have hhex : ∀ {ds n}, digits? 16 ds = some n → ∀ c ∈ ds, c.isHexDigit := by
    intro ds n h c hc
    obtain ⟨d, -, hd⟩ := exists_of_mem_digits? h hc
    exact isHexDigit_of_digit? hd
  have hdec : ∀ {b ds n}, b ≤ 10 → digits? b ds = some n → ∀ c ∈ ds, c.isDigit := by
    intro b ds n hb h c hc
    obtain ⟨d, hlt, hd⟩ := exists_of_mem_digits? h hc
    exact isDigit_of_digit? hd (Nat.lt_of_lt_of_le hlt hb)
  rw [part?.eq_def] at h
  split at h
  · cases h
  · exact Or.inl (by simp)
  · exact Or.inr ⟨_, _, rfl, Or.inl rfl, hhex h⟩
  · exact Or.inr ⟨_, _, rfl, Or.inr rfl, hhex h⟩
  · exact Or.inl (List.forall_mem_cons.2 ⟨by decide, hdec (by decide) h⟩)
  · exact Or.inl (hdec (by decide) h)

end Ipv4

lemma isNumber_of_map_toLower {l : List Char} (hl : ∀ c ∈ l, c.toNat < 128)
    (h : IsNumber (l.map Char.toLower)) : IsNumber l := by
  have hdigit : ∀ c ∈ l, c.toLower.isDigit → c.isDigit := fun c hc =>
    forall_ascii (P := fun c => c.toLower.isDigit → c.isDigit) (by decide) (hl c hc)
  have hhex : ∀ c ∈ l, c.toLower.isHexDigit → c.isHexDigit := fun c hc =>
    forall_ascii (P := fun c => c.toLower.isHexDigit → c.isHexDigit) (by decide) (hl c hc)
  have hzero : ∀ c ∈ l, c.toLower = '0' → c = '0' := fun c hc =>
    forall_ascii (P := fun c => c.toLower = '0' → c = '0') (by decide) (hl c hc)
  have hx : ∀ c ∈ l, c.toLower = 'x' ∨ c.toLower = 'X' → c = 'x' ∨ c = 'X' := fun c hc =>
    forall_ascii (P := fun c => c.toLower = 'x' ∨ c.toLower = 'X' → c = 'x' ∨ c = 'X')
      (by decide) (hl c hc)
  rcases h with h | ⟨x, ds, heq, hmark, hds⟩
  · exact Or.inl fun c hc => hdigit c hc (h _ (List.mem_map_of_mem hc))
  · rw [List.map_eq_cons_iff] at heq
    obtain ⟨c, l', rfl, hc, heq⟩ := heq
    rw [List.map_eq_cons_iff] at heq
    obtain ⟨d, l, rfl, rfl, rfl⟩ := heq
    obtain rfl := hzero c List.mem_cons_self hc
    refine Or.inr ⟨d, l, rfl, hx d (by simp) hmark, fun e he => ?_⟩
    exact hhex e (by simp [he]) (hds _ (List.mem_map_of_mem he))

/-! ### The texts of names -/

lemma map_join (f : Char → Char) (sep : Char) (ps : List (List Char)) :
    (join sep ps).map f = join (f sep) (ps.map (List.map f)) := by
  match ps with
  | [] => rfl
  | [p] => rfl
  | p :: q :: ps =>
      have ih := map_join f sep (q :: ps)
      simp only [List.map_cons] at ih
      simp only [join, List.map_append, List.map_cons, ih]

lemma map_toLower_nameText (ls : List (List Char)) (rooted : Bool) :
    (nameText ls rooted).map Char.toLower = nameText (ls.map (List.map Char.toLower)) rooted := by
  have hdot : '.'.toLower = '.' := rfl
  rw [nameText, List.map_append, map_join, hdot, nameText]
  cases rooted <;> rfl

lemma labels_nameText {ls : List (List Char)} (hne : ls ≠ []) (hdot : ∀ l ∈ ls, '.' ∉ l)
    (rooted : Bool) : labels (nameText ls rooted) = ls ++ if rooted then [[]] else [] := by
  cases rooted with
  | false => simpa [nameText, rootDot, labels] using pieces_join hne hdot
  | true =>
      have hlabels := pieces_append_cons '.' (join '.' ls) []
      rwa [pieces_join hne hdot] at hlabels

lemma parts_nameText {ls : List (List Char)} (hne : ls ≠ []) (hdot : ∀ l ∈ ls, '.' ∉ l)
    (hnil : ∀ l ∈ ls, l ≠ []) (rooted : Bool) : Ipv4.parts (nameText ls rooted) = ls := by
  rw [Ipv4.parts, labels_nameText hne hdot]
  cases rooted with
  | true => simp
  | false =>
      have hlast : ls.getLast? ≠ some [] := fun h => hnil _ (List.mem_of_getLast? h) rfl
      simp [hlast]

/-- A name is no address if its last label is no number. -/
lemma isNumeric_nameText {ls : List (List Char)} (hne : ls ≠ []) (hdot : ∀ l ∈ ls, '.' ∉ l)
    (hnil : ∀ l ∈ ls, l ≠ []) (hlast : ∀ l, ls.getLast? = some l → ¬ IsNumber l)
    (rooted : Bool) : Ipv4.isNumeric (nameText ls rooted) = false := by
  have hnumber := hlast _ (List.getLast?_eq_some_getLast hne)
  rw [Ipv4.isNumeric, parts_nameText hne hdot hnil, List.getLast?_eq_some_getLast hne]
  simp only [Bool.or_eq_false_iff, Bool.and_eq_false_iff]
  refine ⟨Or.inr ?_, ?_⟩
  · rw [Bool.eq_false_iff]
    exact fun hall => hnumber (Or.inl (List.all_eq_true.1 hall))
  · rw [Option.isSome_eq_false_iff, Option.isNone_iff_eq_none]
    by_contra hpart
    obtain ⟨n, hn⟩ := Option.ne_none_iff_exists'.1 hpart
    exact hnumber (Ipv4.isNumber_of_part? hn)

/-! ### Ordinary names -/

namespace IsOrdinary

variable {l : List Char}

/-- Whether a label is ordinary can be computed. -/
lemma of_all (hne : l ≠ []) (hchars : l.all fun c => c.isAlphanum || c == '-')
    (hmark : ¬ ['x', 'n', '-', '-'] <+: l.map Char.toLower) : IsOrdinary l := by
  refine ⟨hne, fun c hc => ?_, ?_⟩
  · simpa using List.all_eq_true.1 hchars c hc
  · rwa [String.toList_ofList]

lemma isPlainChar_of_mem (h : IsOrdinary l) {c : Char} (hc : c ∈ l) : isPlainChar c :=
  (isPlainChar_of_isAlphanum (h.chars c hc)).1

lemma dot_not_mem (h : IsOrdinary l) : '.' ∉ l := fun hc =>
  (isPlainChar_of_isAlphanum (h.chars _ hc)).2 rfl

/-- An ordinary label is one in lower case as well. -/
lemma map_toLower (h : IsOrdinary l) : IsOrdinary (l.map Char.toLower) := by
  have hascii : ∀ c ∈ l, c.toNat < 128 := fun c hc =>
    (toNat_of_isPlainChar (h.isPlainChar_of_mem hc)).2
  refine ⟨by simpa using h.ne_nil, ?_, ?_⟩
  · intro c hc
    obtain ⟨d, hd, rfl⟩ := List.mem_map.1 hc
    exact forall_ascii (P := fun d => d.isAlphanum ∨ d = '-' →
      d.toLower.isAlphanum ∨ d.toLower = '-') (by decide) (hascii d hd) (h.chars d hd)
  · have hidem : (l.map Char.toLower).map Char.toLower = l.map Char.toLower := by
      rw [List.map_map]
      refine List.map_congr_left fun c hc => ?_
      exact forall_ascii (P := fun c => c.toLower.toLower = c.toLower) (by decide)
        (hascii c hc)
    rw [hidem]
    exact h.not_encoded

end IsOrdinary

namespace IsOrdinaryName

variable {ls : List (List Char)}

lemma map_toLower (h : IsOrdinaryName ls) : IsOrdinaryName (ls.map (List.map Char.toLower)) := by
  refine ⟨by simpa using h.ne_nil, ?_, ?_⟩
  · intro l hl
    obtain ⟨k, hk, rfl⟩ := List.mem_map.1 hl
    exact (h.ordinary k hk).map_toLower
  · intro l hl hnumber
    rw [List.getLast?_map, Option.map_eq_some_iff] at hl
    obtain ⟨l, hl, rfl⟩ := hl
    refine h.not_number l hl (isNumber_of_map_toLower (fun c hc => ?_) hnumber)
    have hordinary := h.ordinary l (List.mem_of_getLast? hl)
    exact (toNat_of_isPlainChar (hordinary.isPlainChar_of_mem hc)).2

/-- A name without its first label is ordinary, if a label is left. -/
lemma tail {l k : List Char} (h : IsOrdinaryName (k :: l :: ls)) : IsOrdinaryName (l :: ls) :=
  ⟨List.cons_ne_nil _ _, fun m hm => h.ordinary m (List.mem_cons_of_mem _ hm), fun m hm =>
    h.not_number m (by rwa [List.getLast?_cons_cons])⟩

/-- What is left of an ordinary name is ordinary. -/
lemma keptLabels (h : IsOrdinaryName ls) : IsOrdinaryName (keptLabels ls) := by
  match ls with
  | _ :: _ :: _ :: _ =>
      rw [ResultPages.keptLabels, if_pos (by simp)]
      exact h.tail
  | [] | [_] | [_, _] =>
      rwa [keptLabels_of_length_le (by simp)]

lemma isPlainChar_of_mem (h : IsOrdinaryName ls) {rooted : Bool} {c : Char}
    (hc : c ∈ nameText ls rooted) : isPlainChar c := by
  rcases List.mem_append.1 hc with hc | hc
  · rcases mem_join_iff.1 hc with ⟨rfl, -⟩ | ⟨l, hl, hc⟩
    · decide
    · exact (h.ordinary l hl).isPlainChar_of_mem hc
  · cases rooted with
    | false => exact absurd hc List.not_mem_nil
    | true =>
        rw [List.mem_singleton.1 hc]
        decide

lemma labels_eq (h : IsOrdinaryName ls) (rooted : Bool) :
    labels (nameText ls rooted) = ls ++ if rooted then [[]] else [] :=
  labels_nameText h.ne_nil (fun l hl => (h.ordinary l hl).dot_not_mem) rooted

lemma nameText_ne_nil (h : IsOrdinaryName ls) (rooted : Bool) : nameText ls rooted ≠ [] := by
  intro hnil
  have hlabels : [[]] = ls ++ if rooted then [[]] else [] := by
    rw [← h.labels_eq, hnil]
    rfl
  cases rooted with
  | true => exact h.ne_nil (by simpa using hlabels)
  | false =>
      have hmem : [] ∈ ls := by
        rw [← List.append_nil ls]
        exact hlabels ▸ List.mem_singleton_self _
      exact (h.ordinary [] hmem).ne_nil rfl

lemma isNumeric_eq_false (h : IsOrdinaryName ls) (rooted : Bool) :
    Ipv4.isNumeric (nameText ls rooted) = false :=
  isNumeric_nameText h.ne_nil (fun l hl => (h.ordinary l hl).dot_not_mem)
    (fun l hl => (h.ordinary l hl).ne_nil) h.not_number rooted

/-- In lower case it can be taken as it is. -/
lemma isPlain_map_toLower (h : IsOrdinaryName ls) (rooted : Bool) :
    Name.isPlain ((nameText ls rooted).map Char.toLower) := by
  have hlower := h.map_toLower
  rw [map_toLower_nameText, Name.isPlain, Bool.and_eq_true, List.all_eq_true, List.all_eq_true]
  refine ⟨fun c hc => ?_, fun l hl => ?_⟩
  · exact decide_eq_true (toNat_of_isPlainChar (hlower.isPlainChar_of_mem hc)).2
  · rw [Bool.not_eq_true', Bool.eq_false_iff, Ne, List.isPrefixOf_iff_prefix]
    rw [hlower.labels_eq, List.mem_append] at hl
    rcases hl with hl | hl
    · obtain ⟨k, hk, rfl⟩ := List.mem_map.1 hl
      exact (h.ordinary k hk).not_encoded
    · -- the empty label behind the last dot
      cases rooted with
      | false => exact absurd hl List.not_mem_nil
      | true =>
          rw [List.mem_singleton.1 hl, List.prefix_nil, Name.encodedMark, String.toList_ofList]
          exact List.cons_ne_nil _ _

end IsOrdinaryName

/-- An ordinary name is read as itself in lower case. -/
theorem Host.parse_nameText {ls : List (List Char)} (h : IsOrdinaryName ls) (rooted : Bool) :
    parse (nameText ls rooted) =
      .ok (.name (nameText (ls.map (List.map Char.toLower)) rooted)) := by
  have hlower := h.map_toLower
  rw [parse_of_isPlainChar (fun c => h.isPlainChar_of_mem) (h.nameText_ne_nil rooted)
    (h.isPlain_map_toLower rooted), map_toLower_nameText, ofAscii,
    if_neg (hlower.nameText_ne_nil rooted), hlower.isNumeric_eq_false rooted,
    if_neg Bool.false_ne_true]

end ResultPages
