/-
Names in lower case.

The ASCII form of a name is in lower case, whatever the name is spelled with
(`Name.isLowerCase_of_toAscii?`).  When the characters of a name have been mapped, no capital is
among them.  In normal form characters are taken apart, and that brings no capital up if there is
none (`isFreeOfCapitals_split`), and what is put together again lies outside ASCII
(`toLower_of_pair?`).  A label that is decoded holds only characters that mapping leaves alone, and
the digits of Punycode are small letters.
-/
import ResultPages.Proofs.CodePoint.Capital
import ResultPages.Proofs.Host.Characters

namespace ResultPages

open CodePoint

/-- No capital letter of ASCII stands in a text. -/
def IsLowerCase (cs : List Char) : Prop := ∀ c ∈ cs, c.toLower = c

/-- No capital stands in a text, with accents or without. -/
def IsFreeOfCapitals (cs : List Char) : Prop := ∀ c ∈ cs, isCapital c.toNat = false

lemma IsLowerCase.map_toLower {cs : List Char} (h : IsLowerCase cs) : cs.map Char.toLower = cs :=
  (List.map_congr_left h).trans (List.map_id cs)

lemma isLowerCase_map_toLower (cs : List Char) : IsLowerCase (cs.map Char.toLower) := by
  intro c hc
  obtain ⟨d, -, rfl⟩ := List.mem_map.1 hc
  by_cases hd : d.toLower = d
  · rw [hd, hd]
  · rw [toLower_eq_self_iff, not_not] at hd
    exact forall_ascii (P := fun d => d.toLower.toLower = d.toLower) (by decide) (by omega)

/-- A letter of ASCII that is no capital is a small one. -/
lemma IsFreeOfCapitals.isLowerCase {cs : List Char} (h : IsFreeOfCapitals cs) :
    IsLowerCase cs := by
  intro c hc
  by_contra hne
  exact Bool.false_ne_true ((h c hc).symm.trans (isCapital_of_ascii hne))

/-! ### Normal form -/

namespace NormalForm

/-- The letters of Hangul are no capitals. -/
lemma isCapital_hangul {n : Nat} (h : 0x1100 ≤ n) (h' : n < 0x1200) :
    isCapital (Char.ofNat n).toNat = false := by
  refine isCapital_ofNat (Bool.eq_false_iff.2 fun hcapital => ?_)
  obtain ⟨hblock, -⟩ := exists_of_isCapital hcapital
  omega

lemma isFreeOfCapitals_hangulLetters? {c : Char} {cs : List Char}
    (h : hangulLetters? c = some cs) : IsFreeOfCapitals cs := by
  rw [hangulLetters?] at h
  split at h
  · next hc =>
    obtain rfl := Option.some.inj h
    have hhead : IsFreeOfCapitals [Char.ofNat (0x1100 + (c.toNat - 0xAC00) / 588),
        Char.ofNat (0x1161 + (c.toNat - 0xAC00) % 588 / 28)] :=
      List.forall_mem_cons.2 ⟨isCapital_hangul (by omega) (by omega),
        List.forall_mem_singleton.2 (isCapital_hangul (by omega) (by omega))⟩
    split
    · exact hhead
    · exact List.forall_mem_append.2 ⟨hhead,
        List.forall_mem_singleton.2 (isCapital_hangul (by omega) (by omega))⟩
  · cases h

/-- What is no capital has no capital for a part. -/
lemma isFreeOfCapitals_split {c : Char} (hc : isCapital c.toNat = false) :
    IsFreeOfCapitals (split c) := by
  rw [split]
  split
  · next hletters => exact isFreeOfCapitals_hangulLetters? hletters
  · split
    · next p hp =>
      have hwhole := List.find?_some hp
      rw [← of_decide_eq_true hwhole, Bool.eq_false_iff] at hc
      obtain ⟨-, hbase, hmark⟩ := of_mem_composites p (List.mem_of_find?_eq_some hp)
      intro d hd
      simp only [List.mem_cons, List.not_mem_nil, or_false] at hd
      rcases hd with rfl | rfl
      · exact isCapital_ofNat (Bool.eq_false_iff.2 (mt hbase hc))
      · exact isCapital_ofNat hmark
    · exact List.forall_mem_singleton.2 hc

lemma isFreeOfCapitals_decompose {cs : List Char} (hcs : IsFreeOfCapitals cs) :
    IsFreeOfCapitals (decompose cs) := by
  have hround : ∀ {ds : List Char}, IsFreeOfCapitals ds → IsFreeOfCapitals (ds.flatMap split) := by
    intro ds hds c hc
    obtain ⟨d, hd, hc⟩ := List.mem_flatMap.1 hc
    exact isFreeOfCapitals_split (hds d hd) c hc
  exact hround (hround (hround hcs))

lemma place_perm (c : Char) (ds : List Char) : (place c ds).Perm (c :: ds) := by
  induction ds with
  | nil => exact .refl _
  | cons d ds ih =>
      rw [place]
      split
      · exact (ih.cons d).trans (.swap c d ds)
      · exact .refl _

/-- Putting marks in order loses none and adds none. -/
lemma order_perm (cs : List Char) : (order cs).Perm cs := by
  induction cs with
  | nil => exact .refl _
  | cons c cs ih => exact (place_perm c _).trans (ih.cons c)

/-- What is put together is no capital letter of ASCII. -/
lemma toLower_of_pair? {base mark whole : Char} (h : pair? base mark = some whole) :
    whole.toLower = whole := by
  have hcode : ∀ n, 128 ≤ n → (Char.ofNat n).toLower = Char.ofNat n := by
    intro n hn
    rw [toLower_eq_self_iff, toNat_ofNat_eq]
    split <;> omega
  simp only [pair?] at h
  split at h
  · obtain rfl := Option.some.inj h
    exact hcode _ (by omega)
  · split at h
    · obtain rfl := Option.some.inj h
      exact hcode _ (by omega)
    · obtain ⟨p, hp, rfl⟩ := Option.map_eq_some_iff.1 h
      exact hcode _ (of_mem_composites p (List.mem_of_find?_eq_some hp)).1

/-- A base takes up the next character only if the two are one. -/
lemma exists_composeFrom_cons (base : Char) (marks : List Char) (c : Char) (cs : List Char) :
    ∃ found : Option Char, (∀ whole, found = some whole → pair? base c = some whole) ∧
      composeFrom base marks (c :: cs) =
        match found with
        | some whole => composeFrom whole marks cs
        | none =>
          if combiningClass c = 0 then base :: marks.reverse ++ composeFrom c [] cs
          else composeFrom base (c :: marks) cs :=
  ⟨_, fun _ hwhole => (Option.ite_none_right_eq_some.1 hwhole).2,
    composeFrom.eq_def base marks (c :: cs)⟩

lemma isLowerCase_composeFrom {base : Char} {marks cs : List Char} (hbase : base.toLower = base)
    (hmarks : IsLowerCase marks) (hcs : IsLowerCase cs) :
    IsLowerCase (composeFrom base marks cs) := by
  have hpassed : ∀ {base : Char} {marks : List Char}, base.toLower = base → IsLowerCase marks →
      IsLowerCase (base :: marks.reverse) := fun hbase hmarks =>
    List.forall_mem_cons.2 ⟨hbase, fun c hc => hmarks c (List.mem_reverse.1 hc)⟩
  induction cs generalizing base marks with
  | nil => exact hpassed hbase hmarks
  | cons c cs ih =>
      obtain ⟨hc, hcs⟩ := List.forall_mem_cons.1 hcs
      obtain ⟨found, hfound, heq⟩ := exists_composeFrom_cons base marks c cs
      rw [heq]
      cases found with
      | some whole => exact ih (toLower_of_pair? (hfound whole rfl)) hmarks hcs
      | none =>
          dsimp only
          split
          · exact List.forall_mem_append.2 ⟨hpassed hbase hmarks, ih hc (List.forall_mem_nil _) hcs⟩
          · exact ih hbase (List.forall_mem_cons.2 ⟨hc, hmarks⟩) hcs

lemma isLowerCase_compose {cs : List Char} (hcs : IsLowerCase cs) : IsLowerCase (compose cs) := by
  induction cs with
  | nil => exact hcs
  | cons c cs ih =>
      obtain ⟨hc, hcs⟩ := List.forall_mem_cons.1 hcs
      rw [compose]
      split
      · exact isLowerCase_composeFrom hc (List.forall_mem_nil _) hcs
      · exact List.forall_mem_cons.2 ⟨hc, ih hcs⟩

end NormalForm

/-- Normal form brings no capital letter of ASCII up. -/
theorem isLowerCase_normalForm {cs : List Char} (hcs : IsFreeOfCapitals cs) :
    IsLowerCase (normalForm cs) := by
  have hparts := NormalForm.isFreeOfCapitals_decompose hcs
  have hordered : IsFreeOfCapitals (NormalForm.order (NormalForm.decompose cs)) := fun c hc =>
    hparts c ((NormalForm.order_perm _).mem_iff.1 hc)
  exact NormalForm.isLowerCase_compose hordered.isLowerCase

/-! ### Names -/

lemma Punycode.IsWritten.toLower_eq {c : Char} (h : IsWritten c) : c.toLower = c := by
  rcases h with ⟨n, hn, rfl⟩ | rfl
  · have hall : ∀ n < 36, (digit n).toLower = digit n := by decide
    exact hall n hn
  · decide

namespace Name

lemma isLowerCase_of_mapped? {cs mapped : List Char} (h : mapped? cs = some mapped) :
    IsLowerCase mapped := by
  obtain ⟨images, himages, rfl⟩ := Option.map_eq_some_iff.1 h
  refine isLowerCase_normalForm fun c hc => ?_
  obtain ⟨image, himage, hc⟩ := List.mem_flatten.1 hc
  obtain ⟨d, -, hd⟩ := exists_of_mem_mapM himages himage
  exact of_mem_nameImage? hd hc

lemma isLowerCase_of_decodeLabel? {label cs : List Char} (hlabel : IsLowerCase label)
    (h : decodeLabel? label = some cs) : IsLowerCase cs := by
  rw [decodeLabel?] at h
  split at h
  · simp only at h
    split at h
    · cases h
    · obtain ⟨ds, -, h⟩ := Option.bind_eq_some_iff.1 h
      split at h
      · next hkept =>
        -- what mapping leaves alone is no capital
        obtain rfl := Option.some.inj h
        refine IsFreeOfCapitals.isLowerCase fun c hc => ?_
        have hc := List.all_eq_true.1 hkept.1 c hc
        simp only [isKept, Bool.and_eq_true, beq_iff_eq] at hc
        exact of_mem_nameImage? hc.1.1 (List.mem_singleton_self c)
      · cases h
  · obtain rfl := Option.some.inj h
    exact hlabel

lemma isLowerCase_of_soundLabels? {cs : List Char} (hcs : IsLowerCase cs) {ls : List (List Char)}
    (h : soundLabels? cs = some ls) : ∀ l ∈ ls, IsLowerCase l := by
  rw [soundLabels?] at h
  split at h
  · cases h
  · obtain ⟨ls', hls, h⟩ := Option.bind_eq_some_iff.1 h
    split at h
    · obtain rfl := Option.some.inj h
      intro l hl
      obtain ⟨label, hlabel, hdecode⟩ := exists_of_mem_mapM hls hl
      exact isLowerCase_of_decodeLabel? (fun c hc => hcs c (mem_of_mem_piece hlabel hc)) hdecode
    · cases h

lemma isLowerCase_encodeLabel {label : List Char} (h : IsLowerCase label) :
    IsLowerCase (encodeLabel label) := by
  rw [encodeLabel]
  split
  · exact h
  · refine List.forall_mem_append.2 ⟨?_, fun c hc => ?_⟩
    · have hmark : encodedMark.all fun c => c.toLower = c := by
        rw [encodedMark, String.toList_ofList]
        decide
      exact fun c hc => of_decide_eq_true (List.all_eq_true.1 hmark c hc)
    · rcases Punycode.of_mem_encode hc with ⟨hc, -⟩ | hc
      · exact h c hc
      · exact hc.toLower_eq

/-- The ASCII form of a name is in lower case. -/
theorem isLowerCase_of_toAscii? {cs name : List Char} (h : toAscii? cs = some name) :
    IsLowerCase name := by
  rw [toAscii?] at h
  split at h
  · rw [plain?] at h
    split at h
    · cases h
    · obtain rfl := Option.some.inj h
      exact isLowerCase_map_toLower cs
  · obtain ⟨ls, hls, rfl⟩ := Option.map_eq_some_iff.1 h
    obtain ⟨mapped, hmapped, hsound⟩ := Option.bind_eq_some_iff.1 hls
    have hlabels := isLowerCase_of_soundLabels? (isLowerCase_of_mapped? hmapped) hsound
    intro c hc
    rcases mem_join_iff.1 hc with ⟨rfl, -⟩ | ⟨p, hp, hc⟩
    · decide
    · obtain ⟨l, hl, rfl⟩ := List.mem_map.1 hp
      exact isLowerCase_encodeLabel (hlabels l hl) c hc

end Name

end ResultPages
