/-
The host of a link, given back.

A printed host is in its one canonical form.  The digits of an IPv6 address spell it, a name is in
lower case and holds nothing that the reader would rewrite, and a port has no superfluous zeros.
So what is printed is read as itself (`Host.parse_toText`), unless it is a name with encoded
labels.  If nothing of it counts as a subdomain either, the link that is made from the host of a
link is that link again (`Link.make_toText`).
-/
import ResultPages.Proofs.Host.LowerCase
import ResultPages.Proofs.Link.Followed
import ResultPages.Proofs.Link.Shape

namespace ResultPages

/-! ### Hosts -/

/-- A name without encoded labels is its own ASCII form, once it is an ASCII form at all. -/
lemma Name.toAscii?_of_toAscii? {cs name : List Char} (h : toAscii? cs = some name)
    (hlabels : ∀ l ∈ labels name, ¬ encodedMark <+: l) : toAscii? name = some name := by
  have hchar := isNameChar_of_toAscii? h
  have hplain : isPlain name := by
    rw [isPlain, Bool.and_eq_true, List.all_eq_true, List.all_eq_true]
    refine ⟨fun c hc => decide_eq_true (isNameChar_iff.1 (hchar c hc)).1, fun l hl => ?_⟩
    rw [Bool.not_eq_true', Bool.eq_false_iff, Ne, List.isPrefixOf_iff_prefix]
    exact hlabels l hl
  have hclear : ¬ name.any isForbidden := by
    simpa using fun c hc => (isNameChar_iff.1 (hchar c hc)).2
  rw [toAscii?, (isLowerCase_of_toAscii? h).map_toLower]
  simp only [hplain, if_true]
  rw [plain?, if_neg hclear]

lemma Name.not_mem_of_toAscii? {cs name : List Char} (h : toAscii? cs = some name) {c : Char}
    (hc : isNameChar c = false) : c ∉ name := fun hmem =>
  Bool.false_ne_true (hc.symm.trans (isNameChar_of_toAscii? h c hmem))

namespace Host

/-- The hosts that are given back by their links: IPv6 addresses, and names of at most two labels
of which none is encoded. -/
def IsGivenBack : Host → Prop
  | name ascii => (labels ascii).length ≤ 2 ∧ ∀ l ∈ labels ascii, ¬ Name.encodedMark <+: l
  | ipv4 _ => False
  | ipv6 _ => True

variable {cs : List Char} {h : Host}

/-- What is printed for a host is read as the host. -/
theorem parse_toText (hparse : parse cs = .ok h) (hback : h.IsGivenBack) :
    parse h.toText = .ok h := by
  rcases of_parse hparse with ⟨x, rfl⟩ | ⟨x, rfl⟩ | ⟨ds, ascii, hascii, hne, hnumeric, rfl⟩
  · exact (Ipv6.spells_toText x).parse_brackets
  · exact hback.elim
  · have hread := Name.toAscii?_of_toAscii? hascii hback.2
    have hopen : '[' ∉ ascii := Name.not_mem_of_toAscii? hascii (by decide)
    have hpercent : '%' ∉ ascii := Name.not_mem_of_toAscii? hascii (by decide)
    rw [toText, parse_eq_of_not_mem hne hopen hpercent, hread]
    simp only [ofAscii, if_neg hne, hnumeric, Bool.false_eq_true, if_false]

/-- Host and port are told apart in what is printed. -/
lemma isClosed_toText (hparse : parse cs = .ok h) (hback : h.IsGivenBack) :
    Authority.IsClosed h.toText := by
  rcases of_parse hparse with ⟨x, rfl⟩ | ⟨x, rfl⟩ | ⟨ds, ascii, hascii, -, -, rfl⟩
  · refine Authority.isClosed_brackets fun hclose => ?_
    rcases Ipv6.of_mem_toText hclose with hc | hc
    · exact absurd hc (by decide)
    · exact absurd hc (by decide)
  · exact hback.elim
  · exact Authority.isClosed_of_not_mem (Name.not_mem_of_toAscii? hascii (by decide))
      (Name.not_mem_of_toAscii? hascii (by decide))

/-- No label is dropped from what is printed. -/
lemma dropSubdomain_toText (hback : h.IsGivenBack) : dropSubdomain h.toText = h.toText := by
  refine dropSubdomain_eq_self fun hsub => ?_
  have hlength := two_lt_length_labels_iff.2 hsub
  cases h with
  | name ascii => exact absurd hlength (Nat.not_lt.2 hback.1)
  | ipv4 => exact hback
  | ipv6 x =>
      have hdot : '.' ∈ '[' :: (x.toText ++ [']']) :=
        one_lt_length_labels_iff.1 (Nat.lt_of_succ_lt hlength)
      rw [List.mem_cons, List.mem_append, List.mem_singleton] at hdot
      rcases hdot with hdot | hdot | hdot
      · exact absurd hdot (by decide)
      · exact x.dot_not_mem_toText hdot
      · exact absurd hdot (by decide)

end Host

/-! ### Links -/

namespace Link

variable {host : String} {f : Flow} {o : Outcome f} {l : Link}

/-- What is left of a printed host with a port is all of it. -/
lemma dropSubdomain_trim_toText {cs : List Char} {a : Authority}
    (hparse : Authority.parse cs = .ok a) (hback : a.host.IsGivenBack) :
    dropSubdomain (trim a.toText) =
      a.host.toText ++ PortText.behind (a.port.map PortText.ofNat) := by
  obtain ⟨⟨ds, hhost⟩, -⟩ := Authority.of_parse hparse
  have hchar : ∀ c ∈ a.host.toText, isAuthorityChar c := fun c =>
    Host.isAuthorityChar_of_mem_toText hhost
  have htrim := dropSubdomain_trim (List.forall_mem_nil _) hchar (List.forall_mem_nil _)
    (a.port.map PortText.ofNat)
  rwa [List.nil_append, List.append_nil, ← a.toText_eq, Host.dropSubdomain_toText hback] at htrim

/-- The host of a link is what stands behind the scheme of its text.  The link that is made from
it for the same outcome is the same link. -/
theorem make_toText (h : make host o = .ok l) (hback : l.authority.host.IsGivenBack) :
    ∃ w, WebAddress.ofText? l.url.toList = some w ∧
      make (String.ofList w.authority) o = .ok l := by
  obtain ⟨-, a, hparse, rfl⟩ := make_eq_ok_iff.1 h
  refine ⟨_, ofText?_url _ hparse, ?_⟩
  obtain ⟨⟨ds, hhost⟩, hport⟩ := Authority.of_parse hparse
  have hne : a.host.toText ≠ [] := (Host.isHostText_toText hhost).ne_nil
  have hchar : ∀ c ∈ a.host.toText, isAuthorityChar c := fun c =>
    Host.isAuthorityChar_of_mem_toText hhost
  have hsmall : ¬ ∃ q ∈ a.port.map PortText.ofNat, 65535 < q.value := by
    rintro ⟨q, hq, hlt⟩
    obtain ⟨n, hn, rfl⟩ := Option.map_eq_some_iff.1 hq
    rw [PortText.value_ofNat] at hlt
    exact Nat.not_lt.2 (hport n hn).1 hlt
  have hleft : dropSubdomain (trim (String.ofList a.toText).toList) =
      a.host.toText ++ PortText.behind (a.port.map PortText.ofNat) := by
    rw [String.toList_ofList]
    exact dropSubdomain_trim_toText hparse hback
  rw [make_of_isClosed hleft hne (Host.isClosed_toText hhost hback) hchar,
    Host.parse_toText hhost hback]
  simp only [if_neg hsmall, PortText.number?_map_ofNat fun n hn => (hport n hn).2]

lemma parse_wide : Authority.parse ['Ａ', '.', 'b', ':', '0', '4', '4', '3'] =
    .ok ⟨.name ['a', '.', 'b'], none⟩ := by decide +kernel

/-- A host with a wide capital and the port of the scheme, and the host that its link has. -/
theorem make_toText_wide :
    make "id.Ａ.b:0443" (.success .confirmation) =
      .ok ⟨⟨.name ['a', '.', 'b'], none⟩, .confirmation, .success _⟩ ∧
    Host.IsGivenBack (.name ['a', '.', 'b']) ∧
    make "a.b" (.success .confirmation) =
      .ok ⟨⟨.name ['a', '.', 'b'], none⟩, .confirmation, .success _⟩ := by
  have hmake : make "id.Ａ.b:0443" (.success .confirmation) =
      .ok ⟨⟨.name ['a', '.', 'b'], none⟩, .confirmation, .success _⟩ := by
    have hsub : HasSubdomain (trim "id.Ａ.b:0443".toList) ['i', 'd']
        ['Ａ', '.', 'b', ':', '0', '4', '4', '3'] := by
      rw [String.toList_ofList]
      exact ⟨by decide, by decide, by decide⟩
    rw [make_eq_ok_iff, dropSubdomain_of_hasSubdomain hsub]
    exact ⟨by simp [delimiters], _, parse_wide, rfl⟩
  have hback : Host.IsGivenBack (.name ['a', '.', 'b']) := by
    refine ⟨by decide, ?_⟩
    rw [Name.encodedMark, String.toList_ofList]
    decide
  obtain ⟨w, hw, hagain⟩ := make_toText hmake hback
  obtain rfl := Option.some.inj (hw.symm.trans (ofText?_url _ parse_wide))
  exact ⟨hmake, hback, hagain⟩

end Link

end ResultPages
