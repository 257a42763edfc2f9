/-
Links on ordinary host names.

Around an ordinary name blanks may stand, and a port behind it.  The blanks are trimmed, the
first of three or more labels is dropped, and what is left is an ordinary name again with the
port glued to its last label.  The reader puts the name into lower case and the port into its
shortest form, so the whole text of the link is known (`Link.url_of_ordinary_name`).
-/
import ResultPages.Proofs.Host.Ordinary
import ResultPages.Proofs.Host.Port
import ResultPages.Proofs.Link.Bare
import ResultPages.Proofs.Link.Shape

namespace ResultPages

/-- A port as it is printed behind a host: nothing for the port of the scheme. -/
def PortText.shown : Option PortText → String
  | none => ""
  | some p => if p.value = 443 then "" else ":" ++ Nat.repr p.value

/-- The name that an ordinary name leads to: the labels that are left, in lower case. -/
def linkedName (ls : List (List Char)) : List Char :=
  join '.' ((keptLabels ls).map (List.map Char.toLower))

/-- A host as it is given: blanks around labels that are joined by dots, and a port. -/
def givenHost (before : List Char) (ls : List (List Char)) (p : Option PortText)
    (after : List Char) : String :=
  String.ofList (before ++ (join '.' ls ++ PortText.behind p) ++ after)

lemma Authority.ofList_toText_number? (cs : List Char) (p : Option PortText) :
    String.ofList (toText ⟨.name cs, PortText.number? p⟩) =
      String.ofList cs ++ PortText.shown p := by
  rw [toText, String.ofList_append]
  refine congrArg (String.ofList cs ++ ·) ?_
  cases p with
  | none => rfl
  | some p =>
      by_cases h : p.value = 443
      · have hnone : PortText.number? (some p) = none := by
          simp [PortText.number?, Option.filter_some, h]
        rw [hnone, PortText.shown, if_pos h]
      · have hsome : PortText.number? (some p) = some p.value := by
          simp [PortText.number?, Option.filter_some, h]
        rw [hsome, PortText.shown, if_neg h]
        exact String.ofList_cons

namespace Link

variable {ls : List (List Char)} {before after : List Char}

/-- What is left of an ordinary name with its port. -/
lemma dropSubdomain_trim_givenHost (hls : IsOrdinaryName ls) (hbefore : ∀ c ∈ before, isBlank c)
    (hafter : ∀ c ∈ after, isBlank c) (p : Option PortText) :
    dropSubdomain (trim (givenHost before ls p after).toList) =
      nameText (keptLabels ls) false ++ PortText.behind p := by
  have hname : ∀ ks : List (List Char), nameText ks false = join '.' ks := fun ks =>
    List.append_nil _
  have hchar : ∀ c ∈ join '.' ls, isAuthorityChar c := by
    intro c hc
    rw [← hname] at hc
    exact isAuthorityChar_of_isPlainChar (hls.isPlainChar_of_mem hc)
  rw [givenHost, String.toList_ofList, dropSubdomain_trim hbefore hchar hafter, hname,
    dropSubdomain_join hls.ne_nil fun l hl => (hls.ordinary l hl).dot_not_mem]

/-- The link on an ordinary name. -/
lemma make_givenHost (hls : IsOrdinaryName ls) (hbefore : ∀ c ∈ before, isBlank c)
    (hafter : ∀ c ∈ after, isBlank c) (p : Option PortText) {f : Flow} (o : Outcome f) :
    make (givenHost before ls p after) o =
      if ∃ q ∈ p, 65535 < q.value then
        .error (.invalidHost (String.ofList (nameText (keptLabels ls) false ++
          PortText.behind p)) .invalidPort)
      else .ok ⟨⟨.name (linkedName ls), PortText.number? p⟩, f, o⟩ := by
  have hkept := hls.keptLabels
  have hchar : ∀ c ∈ nameText (keptLabels ls) false, isAuthorityChar c := fun c hc =>
    isAuthorityChar_of_isPlainChar (hkept.isPlainChar_of_mem hc)
  have hclosed : Authority.IsClosed (nameText (keptLabels ls) false) :=
    Authority.isClosed_of_isPlainChar fun c => hkept.isPlainChar_of_mem
  have hlinked : nameText ((keptLabels ls).map (List.map Char.toLower)) false = linkedName ls :=
    List.append_nil _
  rw [make_of_isClosed (dropSubdomain_trim_givenHost hls hbefore hafter p)
    (hkept.nameText_ne_nil false) hclosed hchar, Host.parse_nameText hkept, hlinked]

/-- The whole text of the link on an ordinary name, if its port is in range.  Otherwise there is
none. -/
theorem url_of_ordinary_name (hls : IsOrdinaryName ls) (hbefore : ∀ c ∈ before, isBlank c)
    (hafter : ∀ c ∈ after, isBlank c) (p : Option PortText) {f : Flow} (o : Outcome f) :
    ((∀ q ∈ p, q.value ≤ 65535) → ∃ l, make (givenHost before ls p after) o = .ok l ∧
      l.url = "https://" ++ String.ofList (linkedName ls) ++ PortText.shown p ++ f.route ++
        "?status=" ++ o.token) ∧
    ((∃ q ∈ p, 65535 < q.value) → ∃ e, make (givenHost before ls p after) o = .error e) := by
  have hmake := make_givenHost hls hbefore hafter p o
  constructor
  · intro hp
    have hport : ¬ ∃ q ∈ p, 65535 < q.value := fun ⟨q, hq, hlt⟩ => Nat.not_lt.2 (hp q hq) hlt
    rw [if_neg hport] at hmake
    refine ⟨_, hmake, ?_⟩
    rw [url_eq, Authority.ofList_toText_number?, ← String.append_assoc]
  · intro hlarge
    rw [if_pos hlarge] at hmake
    exact ⟨_, hmake⟩

lemma isOrdinaryName_id_example_com : IsOrdinaryName
    [['I', 'd'], ['E', 'x', 'a', 'm', 'p', 'l', 'e'], ['C', 'O', 'M']] := by
  refine ⟨List.cons_ne_nil _ _, fun l hl => ?_, fun l hl => ?_⟩
  · simp only [List.mem_cons, List.not_mem_nil, or_false] at hl
    rcases hl with rfl | rfl | rfl <;>
      exact .of_all (by decide) (by decide) (by decide)
  · obtain rfl := Option.some.inj hl
    rintro (h | ⟨x, ds, heq, -⟩)
    · exact absurd (h 'C' List.mem_cons_self) (by decide)
    · exact absurd (List.cons.inj heq).1 (by decide)

/-- A name in mixed case between blanks, with a zero before its port. -/
theorem url_of_id_example_com :
    IsOrdinaryName [['I', 'd'], ['E', 'x', 'a', 'm', 'p', 'l', 'e'], ['C', 'O', 'M']] ∧
    ∃ l, make "\u2003Id.Example.COM:08443 " (.success .confirmation) = .ok l ∧
      l.url = "https://example.com:8443/confirmation-status?status=success" := by
  have hname := isOrdinaryName_id_example_com
  have hport : ∀ q ∈ some (⟨['0', '8', '4', '4', '3'], by decide, List.all_eq_true.1 (by decide)⟩ :
      PortText), q.value ≤ 65535 := by
    rintro q ⟨⟩
    decide
  obtain ⟨l, hl, hurl⟩ := (url_of_ordinary_name hname (List.all_eq_true.1 (by decide) :
    ∀ c ∈ ['\u2003'], isBlank c) (List.all_eq_true.1 (by decide) : ∀ c ∈ [' '], isBlank c) _
    (.success .confirmation)).1 hport
  exact ⟨hname, l, hl, hurl.trans (by decide)⟩

lemma parse_0X1F : Authority.parse ['0', 'X', '1', 'F'] = .ok ⟨.ipv4 ⟨0, 0, 0, 31⟩, none⟩ := by
  have hplain : ∀ c ∈ ['0', 'X', '1', 'F'], isPlainChar c := List.all_eq_true.1 (by decide)
  have hhost : Host.parse ['0', 'X', '1', 'F'] = .ok (.ipv4 ⟨0, 0, 0, 31⟩) := by
    rw [Host.parse_of_isPlainChar hplain (List.cons_ne_nil _ _) (by decide)]
    decide
  have hvisible : ∀ c ∈ ['0', 'X', '1', 'F'], 0x20 < c.toNat := fun c hc =>
    (toNat_of_isPlainChar (hplain c hc)).1
  have hparse := Authority.parse_append (Authority.isClosed_of_isPlainChar hplain) hvisible none
  rw [hhost] at hparse
  exact hparse

/-- Behind `0X` a last label is a number as well, and the link leads to an address. -/
theorem not_forall_url_of_name : ¬ ∀ (ls : List (List Char)), ls ≠ [] →
    (∀ l ∈ ls, IsOrdinary l) →
    (∀ l, ls.getLast? = some l → ¬ (∀ c ∈ l, c.isDigit) ∧
      ¬ ∃ ds, l = '0' :: 'x' :: ds ∧ ∀ c ∈ ds, c.isHexDigit) →
    ∀ before after : List Char, (∀ c ∈ before, isBlank c) → (∀ c ∈ after, isBlank c) →
    ∀ p : Option PortText, (∀ q ∈ p, q.value ≤ 65535) → ∀ (f : Flow) (o : Outcome f),
      ∃ l, make (givenHost before ls p after) o = .ok l ∧
        l.url = "https://" ++ String.ofList (linkedName ls) ++ PortText.shown p ++ f.route ++
          "?status=" ++ o.token := by
  intro h
  have hlast : ∀ l, [['0', 'X', '1', 'F']].getLast? = some l → ¬ (∀ c ∈ l, c.isDigit) ∧
      ¬ ∃ ds, l = '0' :: 'x' :: ds ∧ ∀ c ∈ ds, c.isHexDigit := by
    intro l hl
    obtain rfl := Option.some.inj hl
    constructor
    · intro h
      exact absurd (h 'X' (by decide)) (by decide)
    · rintro ⟨ds, heq, -⟩
      exact absurd (List.cons.inj (List.cons.inj heq).2).1 (by decide)
  have hordinary : IsOrdinary ['0', 'X', '1', 'F'] := .of_all (by decide) (by decide) (by decide)
  obtain ⟨l, hl, hurl⟩ := h _ (List.cons_ne_nil _ _)
    (List.forall_mem_singleton.2 hordinary) hlast [] [] (List.forall_mem_nil _)
    (List.forall_mem_nil _) none (by simp) .confirmation (.success _)
  obtain ⟨-, a, hparse, rfl⟩ := make_eq_ok_iff.1 hl
  obtain rfl := Except.ok.inj (hparse.symm.trans parse_0X1F)
  rw [url_eq] at hurl
  exact absurd hurl (by decide)

end Link

end ResultPages
