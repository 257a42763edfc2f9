/-
Fragments in targets.

A fragment is for whoever sent the request and not for the service.  `parse_dropFragment` says
that nothing of it comes into a target: a text is read as the part of it that stands in front
of the first number sign.  That the reader looks at the path and the query of that part alone
is plain from `pathAndQuery`; the work is in the scheme and the authority, which are read from
the whole text and turn out to end before the number sign.
-/
import Mathlib.Data.List.TakeWhile
import ResultPages.Proofs.Http.OriginForm

namespace ResultPages

namespace Target

/-! ### Dropping the fragment -/

lemma dropFragment_idem (bs : Octets) : dropFragment (dropFragment bs) = dropFragment bs :=
  List.takeWhile_idem

lemma dropFragment_eq_self {bs : Octets} (h : '#'.toUInt8 ∉ bs) : dropFragment bs = bs := by
  rw [dropFragment, List.takeWhile_eq_self_iff]
  rintro b hb
  refine decide_eq_true ?_
  rintro rfl
  exact h hb

lemma dropFragment_append {head : Octets} (h : '#'.toUInt8 ∉ head) (rest : Octets) :
    dropFragment (head ++ rest) = head ++ dropFragment rest := by
  refine List.takeWhile_append_of_pos fun b hb => decide_eq_true ?_
  rintro rfl
  exact h hb

lemma dropFragment_cons {b : UInt8} (h : b ≠ '#'.toUInt8) (rest : Octets) :
    dropFragment (b :: rest) = b :: dropFragment rest := by
  have hmark : '#'.toUInt8 ∉ [b] := by
    rw [List.mem_singleton]
    exact Ne.symm h
  exact dropFragment_append hmark rest

/-- What is read up to an octet of some kind, of which the number sign is one, is the same
without the fragment. -/
lemma takeWhile_dropFragment {p : UInt8 → Bool} (hp : p '#'.toUInt8 = false) (bs : Octets) :
    (dropFragment bs).takeWhile p = bs.takeWhile p := by
  rw [dropFragment, List.takeWhile_takeWhile]
  congr 1
  funext b
  by_cases hb : b = '#'.toUInt8
  · simp [hb, hp]
  · simp [hb]

lemma not_mem_takeWhile {p : UInt8 → Bool} (hp : p '#'.toUInt8 = false) (bs : Octets) :
    '#'.toUInt8 ∉ bs.takeWhile p := by
  intro h
  have hpos := List.mem_takeWhile_imp h
  rw [hp] at hpos
  cases hpos

/-- A beginning without a number sign is there with and without the fragment. -/
lemma isPrefixOf_dropFragment {start : Octets} (h : '#'.toUInt8 ∉ start) (bs : Octets) :
    start.isPrefixOf (dropFragment bs) = start.isPrefixOf bs := by
  induction start generalizing bs with
  | nil => rfl
  | cons s start ih =>
      rw [List.mem_cons, not_or] at h
      cases bs with
      | nil => rfl
      | cons b bs =>
          by_cases hb : b = '#'.toUInt8
          · have hs : (s == '#'.toUInt8) = false := beq_eq_false_iff_ne.2 (Ne.symm h.1)
            rw [hb, List.isPrefixOf_cons_cons, hs, Bool.false_and]
            rfl
          · rw [dropFragment_cons hb, List.isPrefixOf_cons_cons, List.isPrefixOf_cons_cons, ih h.2]

lemma take_dropFragment {n : ℕ} {bs : Octets} (h : '#'.toUInt8 ∉ bs.take n) :
    (dropFragment bs).take n = bs.take n := by
  rw [dropFragment, List.take_takeWhile]
  exact dropFragment_eq_self h

lemma drop_dropFragment {n : ℕ} {bs : Octets} (h : '#'.toUInt8 ∉ bs.take n) :
    (dropFragment bs).drop n = dropFragment (bs.drop n) := by
  induction n generalizing bs with
  | zero => rfl
  | succ n ih =>
      cases bs with
      | nil => rfl
      | cons b bs =>
          rw [List.take_succ_cons, List.mem_cons, not_or] at h
          rw [dropFragment_cons (Ne.symm h.1), List.drop_succ_cons, List.drop_succ_cons, ih h.2]

lemma take_length_takeWhile (p : UInt8 → Bool) (bs : Octets) :
    bs.take (bs.takeWhile p).length = bs.takeWhile p :=
  (List.prefix_iff_eq_take.1 (List.takeWhile_prefix p)).symm

/-! ### The scheme -/

/-- An octet with capital letters put into lower case. -/
def lower (b : UInt8) : UInt8 := if 'A'.toUInt8 ≤ b ∧ b ≤ 'Z'.toUInt8 then b + 32 else b

lemma lower_eq_iff (b : UInt8) : lower b = '#'.toUInt8 ↔ b = '#'.toUInt8 := by
  have hall : ∀ n < 256, lower (UInt8.ofNat n) = '#'.toUInt8 ↔ UInt8.ofNat n = '#'.toUInt8 := by
    decide +kernel
  have hb := hall b.toNat b.toNat_lt
  rwa [UInt8.ofNat_toNat] at hb

lemma map_lower_dropFragment (bs : Octets) :
    (dropFragment bs).map lower = dropFragment (bs.map lower) := by
  rw [dropFragment, dropFragment, List.takeWhile_map]
  congr 2
  funext b
  simp [lower_eq_iff]

lemma not_mem_of_isPrefixOf_map_lower {start bs : Octets} (h : '#'.toUInt8 ∉ start)
    (hstart : start.isPrefixOf (bs.map lower)) : '#'.toUInt8 ∉ bs.take start.length := by
  intro hmem
  obtain ⟨rest, hrest⟩ := List.isPrefixOf_iff_prefix.1 hstart
  refine h ?_
  have htake : start = (bs.take start.length).map lower := by
    rw [List.map_take, ← hrest, List.take_left]
  rw [htake]
  exact List.mem_map.2 ⟨_, hmem, (lower_eq_iff _).2 rfl⟩

/-- The octets of the name of a scheme. -/
def isSchemeOctet (b : UInt8) : Bool := isAlphanumeric b || isOneOf "+-.~" b

lemma isSchemeOctet_fragment : isSchemeOctet '#'.toUInt8 = false := by
  rw [isSchemeOctet, isOneOf, String.toList_ofList]
  decide

lemma endsAuthority_fragment : endsAuthority '#'.toUInt8 = true := by
  rw [endsAuthority, isOneOf, String.toList_ofList]
  decide

lemma schemeLength?_eq (bs : Octets) : schemeLength? bs =
    if (Octets.ofString "http://").isPrefixOf (bs.map lower) then .ok (some 4)
    else if (Octets.ofString "https://").isPrefixOf (bs.map lower) then .ok (some 5)
    else if 3 < bs.length ∧ (Octets.ofString "://").isPrefixOf
        (bs.drop (bs.takeWhile isSchemeOctet).length) then
      if 64 < (bs.takeWhile isSchemeOctet).length then .error .schemeTooLong
      else .ok (some (bs.takeWhile isSchemeOctet).length)
    else .ok none := rfl

lemma not_mem_schemes : '#'.toUInt8 ∉ Octets.ofString "http://" ∧
    '#'.toUInt8 ∉ Octets.ofString "https://" ∧ '#'.toUInt8 ∉ Octets.ofString "://" := by
  decide

/-- There is no number sign in a scheme and what separates it from the authority. -/
lemma not_mem_take_of_schemeLength? {bs : Octets} {n : Nat}
    (h : schemeLength? bs = .ok (some n)) : '#'.toUInt8 ∉ bs.take (n + 3) := by
  obtain ⟨hhttp, hhttps, hmark⟩ := not_mem_schemes
  rw [schemeLength?_eq] at h
  split at h
  · next hstart =>
    obtain rfl : 4 = n := Option.some.inj (Except.ok.inj h)
    exact not_mem_of_isPrefixOf_map_lower hhttp hstart
  split at h
  · next hstart =>
    obtain rfl : 5 = n := Option.some.inj (Except.ok.inj h)
    exact not_mem_of_isPrefixOf_map_lower hhttps hstart
  split at h
  · next hstart =>
    split at h
    · cases h
    · obtain rfl := Option.some.inj (Except.ok.inj h)
      have hsep : (bs.drop (bs.takeWhile isSchemeOctet).length).take 3 =
          Octets.ofString "://" :=
        (List.prefix_iff_eq_take.1 (List.isPrefixOf_iff_prefix.1 hstart.2)).symm
      rw [List.take_add, take_length_takeWhile, hsep, List.mem_append, not_or]
      exact ⟨not_mem_takeWhile isSchemeOctet_fragment bs, hmark⟩
  · cases h

/-- The scheme is the same without the fragment, unless nothing at all is left behind it. -/
lemma schemeLength?_dropFragment {bs : Octets} (h : 3 < (dropFragment bs).length) :
    schemeLength? (dropFragment bs) = schemeLength? bs := by
  obtain ⟨hhttp, hhttps, hmark⟩ := not_mem_schemes
  have hlong : 3 < bs.length :=
    Nat.lt_of_lt_of_le h (List.takeWhile_prefix _).length_le
  -- behind the name of the scheme, too, only the fragment is gone
  have hname : '#'.toUInt8 ∉ bs.take (bs.takeWhile isSchemeOctet).length := by
    rw [take_length_takeWhile]
    exact not_mem_takeWhile isSchemeOctet_fragment bs
  rw [schemeLength?_eq, schemeLength?_eq, map_lower_dropFragment,
    isPrefixOf_dropFragment hhttp, isPrefixOf_dropFragment hhttps,
    takeWhile_dropFragment isSchemeOctet_fragment, drop_dropFragment hname, isPrefixOf_dropFragment hmark]
  simp only [h, hlong, true_and]

/-! ### Whole targets -/

lemma pathAndQuery_dropFragment (scheme authority bs : Octets) :
    pathAndQuery scheme authority (dropFragment bs) = pathAndQuery scheme authority bs := by
  rw [pathAndQuery, pathAndQuery, dropFragment_idem]

/-- Only behind a scheme and an authority there can be a fragment. -/
lemma parseFull_dropFragment {bs : Octets} {t : Target} (h : parseFull bs = .ok t)
    (hne : dropFragment bs ≠ bs) :
    3 < (dropFragment bs).length ∧ parseFull (dropFragment bs) = .ok t := by
  have hends : (!endsAuthority '#'.toUInt8) = false := by rw [endsAuthority_fragment]; rfl
  have hread := h
  rw [parseFull] at hread
  cases hscheme : schemeLength? bs with
  | error e =>
      rw [hscheme] at hread
      cases hread
  | ok scheme =>
      rw [hscheme] at hread
      cases scheme with
      | none =>
          -- the whole text is an authority, so there is no fragment
          simp only at hread
          split at hread
          · cases hread
          split at hread
          · cases hread
          split at hread
          · next hall =>
            refine absurd (dropFragment_eq_self ?_) hne
            rw [← hall]
            exact not_mem_takeWhile hends bs
          · cases hread
      | some n =>
          simp only at hread
          split at hread
          · cases hread
          split at hread
          · cases hread
          next hcheck =>
          split at hread
          · cases hread
          next hauthority =>
          -- the authority is not empty, so the fragment begins behind it
          have hpre := not_mem_take_of_schemeLength? hscheme
          have hdrop := drop_dropFragment hpre
          have hkept : (dropFragment bs).drop (n + 3) ≠ [] := by
            rw [hdrop]
            intro hnil
            rw [← takeWhile_dropFragment hends, hnil] at hauthority
            exact hauthority rfl
          have hlong : 3 < (dropFragment bs).length := by
            have hpos := List.length_pos_iff.2 hkept
            rw [List.length_drop] at hpos
            omega
          have htake : (dropFragment bs).take n = bs.take n := by
            refine take_dropFragment fun hmem => hpre ?_
            rw [List.take_add]
            exact List.mem_append_left _ hmem
          have hbehind : '#'.toUInt8 ∉ (bs.drop (n + 3)).take
              ((bs.drop (n + 3)).takeWhile (!endsAuthority ·)).length := by
            rw [take_length_takeWhile]
            exact not_mem_takeWhile hends _
          refine ⟨hlong, ?_⟩
          rw [parseFull, schemeLength?_dropFragment hlong, hscheme]
          simp only [if_neg hkept]
          rw [hdrop, takeWhile_dropFragment hends, hcheck]
          simp only [if_neg hauthority, htake]
          rw [drop_dropFragment hbehind, pathAndQuery_dropFragment, hread]

/-- A target is read from the part of a text in front of the fragment. -/
theorem parse_dropFragment {bs : Octets} {t : Target} (h : parse bs = .ok t) :
    parse (dropFragment bs) = .ok t := by
  by_cases hself : dropFragment bs = bs
  · rw [hself, h]
  rw [parse.eq_def] at h
  split at h
  · cases h
  next hshort =>
  have hshort' : ¬ 65534 < (dropFragment bs).length := fun hlong =>
    hshort (Nat.lt_of_lt_of_le hlong (List.takeWhile_prefix _).length_le)
  rw [parse.eq_def, if_neg hshort']
  rcases bs with _ | ⟨b, _ | ⟨c, rest⟩⟩
  · cases h
  · -- the octet is the number sign itself, and that is refused
    by_cases hb : b = '#'.toUInt8
    · subst hb
      simp only [endsAuthority_fragment] at h
      cases h
    · exact absurd (dropFragment_cons hb []) hself
  · simp only at h
    split at h
    · next hslash =>
      subst hslash
      rw [← pathAndQuery_dropFragment] at h
      rw [dropFragment_cons (by decide)] at h ⊢
      cases hkept : dropFragment (c :: rest) with
      | nil =>
          rw [hkept] at h
          exact h
      | cons d kept =>
          rw [hkept] at h
          exact h
    · next hslash =>
      obtain ⟨hlong, hfull⟩ := parseFull_dropFragment h hself
      by_cases hb : b = '#'.toUInt8
      · subst hb
        cases hlong
      rw [dropFragment_cons hb] at hfull hlong ⊢
      cases hkept : dropFragment (c :: rest) with
      | nil =>
          rw [hkept] at hlong
          exact absurd hlong (by simp)
      | cons d kept =>
          rw [hkept] at hfull
          simpa only [if_neg hslash] using hfull

end Target

end ResultPages
