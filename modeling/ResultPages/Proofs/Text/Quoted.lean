/-
What a quoted text tells of the text inside.

Inside quotes every character is written in a way that can be told apart from every other one,
whatever follows (`read?_escape`).  So a quoted text determines the text inside and where it
ends (`text_append_inj`), and since all that cannot be shown is written by printable characters,
nothing in it ends the line or moves the cursor (`isPlain_of_mem_present`).
-/
import ResultPages.Proofs.Host.Numbers
import ResultPages.Text.Quoted

namespace ResultPages

namespace Quoted

/-! ### Escapes are read back -/

/-- The characters with an escape of two characters, by the second one. -/
def shortEscapes : List (Char × Char) :=
  [('0', '\x00'), ('t', '\t'), ('r', '\r'), ('n', '\n'), ('"', '"'), ('\\', '\\')]

/-- The first character inside quotes and what stands behind it.  There is none at the end. -/
def read? : List Char → Option (Char × List Char)
  | [] => none
  | c :: cs =>
    if c = '"' then none
    else if c ≠ '\\' then some (c, cs)
    else if cs.head? = some 'u' then
      let parts := cut '\x7d' (cs.drop 2)
      (Ipv4.digits? 16 parts.1).map fun n => (Char.ofNat n, parts.2.getD [])
    else (shortEscapes.find? fun e => cs.head? = some e.1).map fun e => (e.2, cs.drop 1)

/-- A character has a short escape, or that of its code point, or stands for itself. -/
lemma escape_cases (c : Char) :
    (∃ l, (l, c) ∈ shortEscapes ∧ escape c = ['\\', l]) ∨ escape c = codePoint c ∨
      (escape c = [c] ∧ c ≠ '"' ∧ c ≠ '\\' ∧ CodePoint.isPrintable c) := by
  have hshort : ∀ e ∈ shortEscapes, escape e.2 = ['\\', e.1] := by decide
  by_cases hmem : ∃ l, (l, c) ∈ shortEscapes
  · obtain ⟨l, hl⟩ := hmem
    exact Or.inl ⟨l, hl, hshort _ hl⟩
  · have hne : ∀ e ∈ shortEscapes, c ≠ e.2 := by
      rintro e he rfl
      exact hmem ⟨e.1, he⟩
    simp only [shortEscapes, List.forall_mem_cons] at hne
    obtain ⟨h0, ht, hr, hn, hquote, hslash, -⟩ := hne
    simp only [escape, if_neg h0, if_neg ht, if_neg hr, if_neg hn, if_neg hquote, if_neg hslash]
    by_cases hprintable : CodePoint.isPrintable c
    · rw [if_pos hprintable]
      exact Or.inr (Or.inr ⟨rfl, hquote, hslash, hprintable⟩)
    · rw [if_neg hprintable]
      exact Or.inr (Or.inl rfl)

/-- A brace ends the digits of a code point. -/
lemma brace_not_mem_toDigits (n : Nat) : '\x7d' ∉ Nat.toDigits 16 n := by
  intro h
  obtain ⟨m, hm, hbrace⟩ := exists_digitChar_of_mem_toDigits (by decide) h
  have hall : ∀ m < 16, '\x7d' ≠ Nat.digitChar m := by decide
  exact hall m hm hbrace

/-- An escaped character is read back, whatever follows. -/
theorem read?_escape (c : Char) (cs : List Char) : read? (escape c ++ cs) = some (c, cs) := by
  obtain ⟨l, hl, hc⟩ | hc | ⟨hc, hquote, hslash, -⟩ := escape_cases c
  · have hread : ∀ e ∈ shortEscapes, read? (['\\', e.1] ++ cs) = some (e.2, cs) := by
      intro e he
      simp only [shortEscapes, List.mem_cons, List.not_mem_nil, or_false] at he
      obtain rfl | rfl | rfl | rfl | rfl | rfl := he <;> rfl
    rw [hc]
    exact hread _ hl
  · have hdigits : Ipv4.digits? 16 (Nat.toDigits 16 c.toNat) = some c.toNat :=
      Ipv4.digits?_toDigits (by decide) (by decide) _
    have hcut : cut '\x7d' (Nat.toDigits 16 c.toNat ++ '\x7d' :: cs) =
        (Nat.toDigits 16 c.toNat, some cs) := cut_append_cons (brace_not_mem_toDigits _) cs
    have hwritten : codePoint c ++ cs =
        '\\' :: 'u' :: '\x7b' :: (Nat.toDigits 16 c.toNat ++ '\x7d' :: cs) := by
      simp [codePoint]
    rw [hc, hwritten]
    change (Ipv4.digits? 16 (cut '\x7d' (Nat.toDigits 16 c.toNat ++ '\x7d' :: cs)).1).map
      (fun n => (Char.ofNat n, (cut '\x7d' (Nat.toDigits 16 c.toNat ++ '\x7d' :: cs)).2.getD [])) =
        some (c, cs)
    rw [hcut, hdigits, Option.map_some, Char.ofNat_toNat]
    rfl
  · rw [hc, List.singleton_append, read?, if_neg hquote, if_pos hslash]

/-! ### Quoted texts -/

lemma text_cons (c : Char) (cs : List Char) :
    ∃ rest, text (c :: cs) = '"' :: (escape c ++ rest) ∧ text cs = '"' :: rest := by
  refine ⟨cs.flatMap escape ++ ['"'], ?_, rfl⟩
  simp [text]

/-- The quote that ends a text is no character inside of it. -/
lemma text_nil_append_ne (d : Char) (ds xs ys : List Char) :
    text [] ++ xs ≠ text (d :: ds) ++ ys := by
  obtain ⟨rest, hd, -⟩ := text_cons d ds
  intro h
  rw [hd, List.cons_append, List.append_assoc] at h
  have hread : none = some (d, rest ++ ys) := by
    rw [← read?_escape d (rest ++ ys), ← (List.cons.inj h).2]
    rfl
  cases hread

/-- A quoted text determines what is quoted, and where it ends. -/
theorem text_append_inj {cs ds xs ys : List Char} (h : text cs ++ xs = text ds ++ ys) :
    cs = ds ∧ xs = ys := by
  induction cs generalizing ds with
  | nil =>
      cases ds with
      | nil => exact ⟨rfl, List.append_cancel_left h⟩
      | cons d ds => exact absurd h (text_nil_append_ne d ds xs ys)
  | cons c cs ih =>
      cases ds with
      | nil => exact absurd h.symm (text_nil_append_ne c cs ys xs)
      | cons d ds =>
          obtain ⟨rest, hc, hcs⟩ := text_cons c cs
          obtain ⟨rest', hd, hds⟩ := text_cons d ds
          rw [hc, hd, List.cons_append, List.cons_append, List.append_assoc,
            List.append_assoc] at h
          -- both texts have the same first character, and the same rest
          have hread := congrArg read? (List.cons.inj h).2
          rw [read?_escape, read?_escape, Option.some.injEq, Prod.mk.injEq] at hread
          obtain ⟨rfl, hrest⟩ := hread
          have hsame : text cs ++ xs = text ds ++ ys := by
            rw [hcs, hds, List.cons_append, List.cons_append, hrest]
          obtain ⟨rfl, rfl⟩ := ih hsame
          exact ⟨rfl, rfl⟩

/-- The frame of a value, the text and the bracket behind it.  To rewrite by associativity would
take the letters of the frame apart. -/
lemma present_eq (cs : List Char) : present cs = "Some(".toList ++ (text cs ++ [')']) :=
  List.append_assoc _ _ _

theorem present_injective : Function.Injective present := by
  intro cs ds h
  rw [present_eq, present_eq] at h
  exact (text_append_inj (List.append_cancel_left h)).1

/-! ### Characters of quoted texts -/

/-- No control character of ASCII. -/
def isPlain (c : Char) : Bool := 0x20 ≤ c.toNat && c.toNat != 0x7F

lemma isPlain_iff {c : Char} : isPlain c ↔ 0x20 ≤ c.toNat ∧ c.toNat ≠ 0x7F := by
  rw [isPlain, Bool.and_eq_true, decide_eq_true_iff, bne_iff_ne]

lemma isPlain_of_mem_escape {c d : Char} (h : d ∈ escape c) : isPlain d := by
  obtain ⟨l, hl, hc⟩ | hc | ⟨hc, -, -, hprintable⟩ := escape_cases c
  · have hall : ∀ e ∈ shortEscapes, ['\\', e.1].all isPlain := by decide
    rw [hc] at h
    exact List.all_eq_true.1 (hall _ hl) d h
  · rw [hc, codePoint, List.mem_append, List.mem_append] at h
    obtain (h | h) | h := h
    · have hall : ['\\', 'u', '\x7b'].all isPlain := by decide
      exact List.all_eq_true.1 hall d h
    · obtain ⟨m, hm, rfl⟩ := exists_digitChar_of_mem_toDigits (by decide) h
      have hall : ∀ m < 16, isPlain (Nat.digitChar m) := by decide
      exact hall m hm
    · rw [List.mem_singleton.1 h]
      decide
  · rw [hc, List.mem_singleton] at h
    rw [h, isPlain_iff]
    exact CodePoint.not_control_of_isPrintable hprintable

/-- No control character of ASCII stands in a quoted text. -/
theorem isPlain_of_mem_present {cs : List Char} {d : Char} (h : d ∈ present cs) : isPlain d := by
  have hframe : ("Some(".toList ++ ['"', ')']).all isPlain := by decide
  rw [present_eq, List.mem_append] at h
  obtain h | h := h
  · exact List.all_eq_true.1 hframe d (List.mem_append_left _ h)
  · simp only [text, List.mem_append, List.mem_cons, List.not_mem_nil, or_false] at h
    obtain (rfl | h | rfl) | rfl := h
    · decide
    · obtain ⟨c, -, hd⟩ := List.mem_flatMap.1 h
      exact isPlain_of_mem_escape hd
    · decide
    · decide

end Quoted

end ResultPages
