/-
What becomes of a host in which a delimiter stands.

`Link.make` looks for delimiters only in what is left of a host, after blanks and subdomain
are gone.  Blanks are no delimiters, so the only place where one goes unseen is the subdomain:
`make_eq_ok_iff` says which hosts have a link, and `make_of_delimiter` which of those with a
delimiter.  Where none can stand, host and port are read apart (`make_of_isClosed`).
-/
import ResultPages.Link
import ResultPages.Proofs.Host.Port
import ResultPages.Proofs.Host.Subdomain
import ResultPages.Proofs.Text.Trim

namespace ResultPages

/-! ### Blanks at the ends -/

/-- The blanks around a host with a port are trimmed, and the port stays. -/
lemma dropSubdomain_trim {before text after : List Char} (hbefore : ∀ c ∈ before, isBlank c)
    (htext : ∀ c ∈ text, isAuthorityChar c) (hafter : ∀ c ∈ after, isBlank c)
    (p : Option PortText) : dropSubdomain (trim (before ++ (text ++ PortText.behind p) ++ after)) =
      dropSubdomain text ++ PortText.behind p := by
  have hvisible : ∀ c ∈ text ++ PortText.behind p, ¬ isBlank c := by
    intro c hc
    refine not_isBlank_of_isAuthorityChar ?_
    rcases List.mem_append.1 hc with hc | hc
    · exact htext c hc
    · exact PortText.isAuthorityChar_of_mem_behind hc
  rw [trim_append hbefore _ hafter, trim_eq_self hvisible,
    dropSubdomain_append _ (PortText.dot_not_mem_behind p)]

namespace Link

lemma mem_of_mem_delimiters {c : Char} (hc : c ∈ delimiters) :
    c ∈ ['/', '\\', '?', '#', '@', '%'] :=
  List.mem_append_left ['%'] hc

lemma not_isBlank_of_mem_delimiters {c : Char} (hc : c ∈ delimiters) : ¬ isBlank c := by
  simp only [delimiters, List.mem_cons, List.not_mem_nil, or_false] at hc
  rcases hc with rfl | rfl | rfl | rfl | rfl <;> decide

/-! ### The hosts that have a link -/

/-- A link is made exactly if no delimiter is left and what is left can be read, and it leads
there. -/
theorem make_eq_ok_iff {host : String} {f : Flow} {o : Outcome f} {l : Link} :
    make host o = .ok l ↔
      (∀ c ∈ delimiters, c ∉ dropSubdomain (trim host.toList)) ∧
      ∃ a, Authority.parse (dropSubdomain (trim host.toList)) = .ok a ∧ l = ⟨a, f, o⟩ := by
  have hany : (dropSubdomain (trim host.toList)).any (delimiters.contains ·) = true ↔
      ∃ c ∈ delimiters, c ∈ dropSubdomain (trim host.toList) := by
    simp [and_comm]
  rw [make]
  generalize dropSubdomain (trim host.toList) = rest at hany ⊢
  -- the checks of `make`, one after the other
  by_cases hempty : rest = []
  · subst hempty
    simp [Authority.parse, Authority.clean, trimEnd, Authority.cutPort, Host.parse]
  by_cases hdelim : ∃ c ∈ delimiters, c ∈ rest
  · simp only [if_neg hempty, if_pos (hany.2 hdelim)]
    obtain ⟨c, hc, hmem⟩ := hdelim
    simp only [reduceCtorEq, false_iff, not_and]
    exact fun h => absurd hmem (h c hc)
  · simp only [if_neg hempty, if_neg (hdelim ∘ hany.1)]
    have hnone : ∀ c ∈ delimiters, c ∉ rest := fun c hc hmem => hdelim ⟨c, hc, hmem⟩
    cases hparse : Authority.parse rest with
    | error e => simp
    | ok a =>
        simp only [Except.ok.injEq, exists_eq_left', iff_true_intro hnone, true_and]
        exact eq_comm

/-- Without delimiters, all depends on the reader. -/
lemma make_of_not_mem {host : String} {rest : List Char}
    (hrest : dropSubdomain (trim host.toList) = rest) (hne : rest ≠ [])
    (hdelim : ∀ c ∈ delimiters, c ∉ rest) {f : Flow} (o : Outcome f) :
    make host o = match Authority.parse rest with
      | .ok a => .ok ⟨a, f, o⟩
      | .error e => .error (.invalidHost (String.ofList rest) e) := by
  have hany : ¬ rest.any (delimiters.contains ·) := by
    simpa using fun c hc hmem => hdelim c hmem hc
  rw [make, hrest]
  cases Authority.parse rest <;> simp only [if_neg hne, if_neg hany]

/-- A host and a port are read apart, if that is what is left. -/
lemma make_of_isClosed {host : String} {left : List Char} {p : Option PortText}
    (hrest : dropSubdomain (trim host.toList) = left ++ PortText.behind p) (hne : left ≠ [])
    (hclosed : Authority.IsClosed left) (hchar : ∀ c ∈ left, isAuthorityChar c) {f : Flow}
    (o : Outcome f) : make host o = match Host.parse left with
      | .error e => .error (.invalidHost (String.ofList (left ++ PortText.behind p)) e)
      | .ok h => if ∃ q ∈ p, 65535 < q.value then
            .error (.invalidHost (String.ofList (left ++ PortText.behind p)) .invalidPort)
          else .ok ⟨⟨h, PortText.number? p⟩, f, o⟩ := by
  rw [make_of_not_mem hrest]
  · rw [Authority.parse_append hclosed fun c hc => (of_isAuthorityChar (hchar c hc)).1.1]
    cases Host.parse left with
    | error e => rfl
    | ok h =>
        by_cases hlarge : ∃ q ∈ p, 65535 < q.value
        · simp only [if_pos hlarge]
        · simp only [if_neg hlarge]
  · exact fun hnil => hne (List.append_eq_nil_iff.1 hnil).1
  · intro c hc hmem
    refine (of_isAuthorityChar ?_).2 (mem_of_mem_delimiters hc)
    rcases List.mem_append.1 hmem with hmem | hmem
    · exact hchar c hmem
    · exact PortText.isAuthorityChar_of_mem_behind hmem

/-- A delimiter of the host that is not in what is left of it stands in the subdomain. -/
lemma exists_hasSubdomain_of_delimiter {host : String}
    (hhost : ∃ c ∈ delimiters, c ∈ host.toList)
    (hrest : ∀ c ∈ delimiters, c ∉ dropSubdomain (trim host.toList)) :
    ∃ first, HasSubdomain (trim host.toList) first (dropSubdomain (trim host.toList)) := by
  obtain ⟨c, hc, hmem⟩ := hhost
  -- without a subdomain nothing but blanks would be gone, and the delimiter still be there
  by_cases hsub : ∃ first rest, HasSubdomain (trim host.toList) first rest
  · obtain ⟨first, rest, hsub⟩ := hsub
    rw [dropSubdomain_of_hasSubdomain hsub]
    exact ⟨first, hsub⟩
  · refine absurd ?_ (hrest c hc)
    rw [dropSubdomain_eq_self hsub]
    exact mem_trim hmem (not_isBlank_of_mem_delimiters hc)

/-- A host with a delimiter in it has a link exactly if the delimiters all stand in the first
of three or more labels and what stands behind that label can be read.  The link leads there;
in all other cases there is an error. -/
theorem make_of_delimiter {host : String} (hhost : ∃ c ∈ delimiters, c ∈ host.toList)
    {f : Flow} (o : Outcome f) :
    (∀ l, make host o = .ok l ↔ ∃ first rest a, HasSubdomain (trim host.toList) first rest ∧
      (∀ c ∈ delimiters, c ∉ rest) ∧ Authority.parse rest = .ok a ∧ l = ⟨a, f, o⟩) ∧
    ((∃ e, make host o = .error e) ↔ ¬ ∃ first rest a,
      HasSubdomain (trim host.toList) first rest ∧
      (∀ c ∈ delimiters, c ∉ rest) ∧ Authority.parse rest = .ok a) := by
  have hok : ∀ l, make host o = .ok l ↔ ∃ first rest a,
      HasSubdomain (trim host.toList) first rest ∧
      (∀ c ∈ delimiters, c ∉ rest) ∧ Authority.parse rest = .ok a ∧ l = ⟨a, f, o⟩ := by
    intro l
    rw [make_eq_ok_iff]
    constructor
    · rintro ⟨hrest, a, hparse, hl⟩
      obtain ⟨first, hsub⟩ := exists_hasSubdomain_of_delimiter hhost hrest
      exact ⟨first, _, a, hsub, hrest, hparse, hl⟩
    · rintro ⟨first, rest, a, hsub, hrest, hparse, hl⟩
      rw [dropSubdomain_of_hasSubdomain hsub]
      exact ⟨hrest, a, hparse, hl⟩
  refine ⟨hok, ?_⟩
  cases hmake : make host o with
  | error e =>
      refine iff_of_true ⟨e, rfl⟩ ?_
      rintro ⟨first, rest, a, hsub, hrest, hparse⟩
      have := (hok ⟨a, f, o⟩).2 ⟨first, rest, a, hsub, hrest, hparse, rfl⟩
      rw [hmake] at this
      cases this
  | ok l =>
      refine iff_of_false (by simp) ?_
      obtain ⟨first, rest, a, hsub, hrest, hparse, -⟩ := (hok l).1 hmake
      exact not_not_intro ⟨first, rest, a, hsub, hrest, hparse⟩

/-! ### A delimiter that goes unseen -/

lemma parse_c_d : Authority.parse ['c', '.', 'd'] = .ok ⟨.name ['c', '.', 'd'], none⟩ :=
  Authority.parse_of_isPlainChar (by decide) (by decide) (by decide) (by decide)

lemma hasSubdomain_slash :
    HasSubdomain (trim "a/b.c.d".toList) ['a', '/', 'b'] ['c', '.', 'd'] := by
  rw [String.toList_ofList]
  exact ⟨by decide, by decide, by decide⟩

lemma exists_delimiter_slash : ∃ c ∈ delimiters, c ∈ "a/b.c.d".toList := by
  rw [String.toList_ofList]
  exact ⟨'/', by decide, by decide⟩

/-- The path of this host is dropped with its subdomain. -/
theorem make_of_path_in_subdomain : (∃ c ∈ delimiters, c ∈ "a/b.c.d".toList) ∧
    make "a/b.c.d" (.success .confirmation) =
      .ok ⟨⟨.name ['c', '.', 'd'], none⟩, .confirmation, .success _⟩ :=
  ⟨exists_delimiter_slash, ((make_of_delimiter exists_delimiter_slash _).1 _).2
    ⟨_, _, _, hasSubdomain_slash, by simp [delimiters], parse_c_d, rfl⟩⟩

/-- Not every host with a delimiter is refused. -/
theorem not_forall_delimiter_error : ¬ ∀ (host : String) (f : Flow) (o : Outcome f),
    (∃ c ∈ delimiters, c ∈ host.toList) → ∃ e, make host o = .error e := by
  intro h
  obtain ⟨e, he⟩ := h "a/b.c.d" .confirmation (.success _) exists_delimiter_slash
  have hok : make "a/b.c.d" (.success .confirmation) =
      .ok ⟨⟨.name ['c', '.', 'd'], none⟩, .confirmation, .success _⟩ := by
    rw [make_eq_ok_iff, dropSubdomain_of_hasSubdomain hasSubdomain_slash]
    exact ⟨by simp [delimiters], _, parse_c_d, rfl⟩
  rw [hok] at he
  cases he

end Link

end ResultPages
