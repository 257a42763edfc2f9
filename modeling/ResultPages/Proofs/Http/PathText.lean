/-
The path of a target as it was sent.

A path is a stretch of the octets of its target, but for the slash that stands for an empty path
behind an authority.  It begins at the beginning of the target or with an ASCII octet, and ends
in front of another one.  So if the target is a text, the path is a text too (`isText_path`).
-/
import ResultPages.Http.Target
import ResultPages.Proofs.Text.Ascii

namespace ResultPages

namespace Target

/-- Where a path is read: at the beginning of the octets, or at an octet that ends what stands
in front of it. -/
structure BeginsAt (bs rest : Octets) : Prop where
  suffix : rest <:+ bs
  ascii : rest = bs ∨ ∀ b ∈ rest.head?, b < 0x80

/-- The stretch of octets from there that is the path. -/
def stretch (rest : Octets) : Octets := (dropFragment rest).takeWhile (· ≠ '?'.toUInt8)

lemma path_of_guard {c : Prop} [Decidable c] {scheme authority path : Octets}
    {query : Option Octets} {e : TargetError} {t : Target}
    (h : (if c then .ok ⟨scheme, authority, path, query⟩ else .error e) =
      (.ok t : Except TargetError Target)) : t.path = path := by
  split at h
  · rw [← Except.ok.inj h]
  · cases h

lemma path_of_pathAndQuery {scheme authority bs : Octets} {t : Target}
    (h : pathAndQuery scheme authority bs = .ok t) :
    t.path = ['/'.toUInt8] ∨ t.path = stretch bs := by
  have hpath : t.path = if stretch bs = [] then ['/'.toUInt8] else stretch bs := path_of_guard h
  rw [hpath]
  split
  · exact Or.inl rfl
  · exact Or.inr rfl

/-- A slash, a question mark or a number sign. -/
lemma ascii_of_endsAuthority {b : UInt8} (h : endsAuthority b = true) : b < 0x80 := by
  simp only [endsAuthority, isOneOf, List.any_eq_true, decide_eq_true_eq] at h
  obtain ⟨c, hc, rfl⟩ := h
  have hall : ("/?#".toList.all fun c => c.toUInt8 < 0x80) = true := by decide
  exact of_decide_eq_true (List.all_eq_true.1 hall c hc)

/-- Behind an authority stands an octet that ends it, or nothing. -/
lemma beginsAt_behind (bs rest : Octets) (h : rest <:+ bs) :
    BeginsAt bs (rest.drop (rest.takeWhile (!endsAuthority ·)).length) := by
  have hsplit : rest.takeWhile (!endsAuthority ·) ++ rest.dropWhile (!endsAuthority ·) = rest :=
    List.takeWhile_append_dropWhile
  have hbehind : rest.drop (rest.takeWhile (!endsAuthority ·)).length =
      rest.dropWhile (!endsAuthority ·) := by
    conv_lhs =>
      arg 2
      rw [← hsplit]
    exact List.drop_left' rfl
  refine ⟨(List.drop_suffix _ _).trans h, Or.inr ?_⟩
  intro b hb
  rw [hbehind] at hb
  have hends := List.head?_dropWhile_not (!endsAuthority ·) rest
  rw [hb] at hends
  exact ascii_of_endsAuthority (by simpa using hends)

lemma exists_of_parseFull {bs : Octets} {t : Target} (h : parseFull bs = .ok t) :
    t.path = [] ∨ ∃ scheme authority rest, BeginsAt bs rest ∧
      pathAndQuery scheme authority rest = .ok t := by
  rw [parseFull] at h
  cases hscheme : schemeLength? bs with
  | error e =>
      rw [hscheme] at h
      cases h
  | ok scheme =>
      rw [hscheme] at h
      cases scheme with
      | none =>
          simp only at h
          split at h
          · cases h
          split at h
          · cases h
          exact Or.inl (path_of_guard h)
      | some n =>
          simp only at h
          split at h
          · cases h
          split at h
          · cases h
          split at h
          · cases h
          exact Or.inr ⟨_, _, _, beginsAt_behind bs _ (List.drop_suffix _ _), h⟩

/-- Where the path of a target comes from. -/
theorem path_cases {bs : Octets} {t : Target} (h : parse bs = .ok t) :
    t.path = [] ∨ t.path = ['/'.toUInt8] ∨ t.path = bs ∨
      ∃ rest, BeginsAt bs rest ∧ t.path = stretch rest := by
  rw [parse.eq_def] at h
  split at h
  · cases h
  match bs with
  | [] => cases h
  | [b] =>
      simp only at h
      split at h
      · rw [← Except.ok.inj h]
        exact Or.inr (Or.inr (Or.inl rfl))
      split at h
      · cases h
      · cases hcheck : checkAuthority [b] with
        | error e =>
            rw [hcheck] at h
            cases h
        | ok u =>
            rw [hcheck] at h
            rw [← Except.ok.inj h]
            exact Or.inl rfl
  | b :: c :: rest =>
      simp only at h
      split at h
      · obtain hslash | hpath := path_of_pathAndQuery h
        · exact Or.inr (Or.inl hslash)
        · exact Or.inr (Or.inr (Or.inr ⟨_, ⟨List.suffix_refl _, Or.inl rfl⟩, hpath⟩))
      · obtain hnil | ⟨scheme, authority, rest', hbegins, hread⟩ := exists_of_parseFull h
        · exact Or.inl hnil
        obtain hslash | hpath := path_of_pathAndQuery hread
        · exact Or.inr (Or.inl hslash)
        · exact Or.inr (Or.inr (Or.inr ⟨rest', hbegins, hpath⟩))

/-- The path stands in the target as it was sent, unless it is the slash for an empty path. -/
theorem path_sent {bs : Octets} {t : Target} (h : parse bs = .ok t) :
    t.path <:+: bs ∨ t.path = ['/'.toUInt8] := by
  obtain hpath | hpath | hpath | ⟨rest, hbegins, hpath⟩ := path_cases h
  · rw [hpath]
    exact Or.inl (List.nil_infix)
  · exact Or.inr hpath
  · rw [hpath]
    exact Or.inl (List.infix_refl _)
  · have hstretch : stretch rest <+: rest :=
      (List.takeWhile_prefix _).trans (List.takeWhile_prefix _)
    rw [hpath]
    exact Or.inl (hstretch.isInfix.trans hbegins.suffix.isInfix)

lemma BeginsAt.isText {bs rest : Octets} (h : BeginsAt bs rest) (hbs : Octets.IsText bs) :
    Octets.IsText rest := by
  obtain ⟨before, hbefore⟩ := h.suffix
  obtain rfl | hascii := h.ascii
  · exact hbs
  · cases rest with
    | nil => exact ⟨"", rfl⟩
    | cons b ys =>
        rw [← hbefore] at hbs
        exact (hbs.of_append (hascii b rfl)).2

lemma isText_stretch {bs : Octets} (h : Octets.IsText bs) : Octets.IsText (stretch bs) := by
  have hstop : ∀ c : UInt8, c < 0x80 → ∀ b : UInt8, decide (b ≠ c) = false → b < 0x80 := by
    intro c hc b hb
    rw [decide_eq_false_iff_not, not_not] at hb
    rwa [hb]
  exact (h.takeWhile (hstop _ (by decide))).takeWhile (hstop _ (by decide))

/-- The path of a target that is a text is a text. -/
theorem isText_path {bs : Octets} {t : Target} (h : parse bs = .ok t)
    (hbs : Octets.IsText bs) : Octets.IsText t.path := by
  obtain hpath | hpath | hpath | ⟨rest, hbegins, hpath⟩ := path_cases h
  · exact ⟨"", hpath⟩
  · exact ⟨"/", hpath⟩
  · rwa [hpath]
  · rw [hpath]
    exact isText_stretch (hbegins.isText hbs)

end Target

end ResultPages
