/-
The shape of printed links.

A host with a port is printed as one of three kinds of host, with a decimal port behind it if
there is one (`Authority.exists_toText_eq`).  Whatever the host that a link is made from is
spelled with, escapes, wide characters or line ends, only printable ASCII is left in its text,
and no character that could end the host early.  So a link has no parts besides the scheme,
the host, the port, the route of its flow and the one parameter that names its outcome
(`Link.url_shape`).
-/
import ResultPages.Proofs.Host.Ipv6Text
import ResultPages.Proofs.Host.Port
import ResultPages.Proofs.Link.Followed

namespace ResultPages

/-! ### Hosts -/

/-- The texts of hosts: an IPv6 address in brackets, an IPv4 address in dotted decimal form, or a
domain, which cannot be read as an address and holds none of the marks of the other kinds. -/
inductive IsHostText : List Char → Prop
  | ipv6 {cs : List Char} {x : Ipv6} (spells : Ipv6.Spells cs x.pieces) :
      IsHostText ('[' :: (cs ++ [']']))
  | ipv4 (x : Ipv4) : IsHostText x.toText
  | domain {cs : List Char} (ne_nil : cs ≠ []) (chars : ∀ c ∈ cs, isNameChar c)
      (not_numeric : Ipv4.isNumeric cs = false) : IsHostText cs

/-- A host is printed in one of these ways. -/
theorem Host.isHostText_toText {cs : List Char} {h : Host} (hparse : parse cs = .ok h) :
    IsHostText h.toText := by
  rcases of_parse hparse with ⟨x, rfl⟩ | ⟨x, rfl⟩ | ⟨ds, ascii, hascii, hne, hnumeric, rfl⟩
  · exact IsHostText.ipv6 (Ipv6.spells_toText x)
  · exact IsHostText.ipv4 x
  · exact IsHostText.domain hne (Name.isNameChar_of_toAscii? hascii) hnumeric

lemma IsHostText.ne_nil {cs : List Char} (h : IsHostText cs) : cs ≠ [] := by
  cases h with
  | ipv6 => exact List.cons_ne_nil _ _
  | ipv4 x =>
      rw [Ipv4.toText_eq_dotted]
      exact Ipv4.dotted_ne_nil (List.cons_ne_nil _ _)
  | domain ne_nil => exact ne_nil

/-! ### Ports -/

/-- A port as it is printed: in range, not the one of the scheme, without superfluous zeros. -/
structure PortText.IsCanonical (p : PortText) : Prop where
  value_le : p.value ≤ 65535
  value_ne : p.value ≠ 443
  zero : p.digits.head? = some '0' → p.digits = ['0']

lemma PortText.isCanonical_ofNat {n : Nat} (hle : n ≤ 65535) (hne : n ≠ 443) :
    (ofNat n).IsCanonical := by
  refine ⟨by simpa using hle, by simpa using hne, fun hzero => ?_⟩
  rcases Nat.eq_zero_or_pos n with rfl | hpos
  · rfl
  · exact absurd hzero (head?_toDigits_ne (by decide) hpos)

/-- A host and a port are printed one behind the other. -/
theorem Authority.exists_toText_eq {cs : List Char} {a : Authority} (h : parse cs = .ok a) :
    ∃ (name : List Char) (port : Option PortText),
      a.toText = name ++ PortText.behind port ∧ IsHostText name ∧ ∀ p ∈ port, p.IsCanonical := by
  obtain ⟨⟨ds, hhost⟩, hport⟩ := of_parse h
  refine ⟨a.host.toText, a.port.map PortText.ofNat, toText_eq a, Host.isHostText_toText hhost, ?_⟩
  intro p hp
  rw [Option.mem_def, Option.map_eq_some_iff] at hp
  obtain ⟨n, hn, rfl⟩ := hp
  obtain ⟨hle, hne⟩ := hport n hn
  exact PortText.isCanonical_ofNat hle hne

namespace Link

/-! ### Links -/

lemma isLiteral_of_mem_token {f : Flow} (o : Outcome f) {c : Char} (hc : c ∈ o.token.toList) :
    Query.isLiteral c := by
  have hall : o.token.toList.all Query.isLiteral := by
    cases o <;> unfold Outcome.token <;> rw [String.toList_ofList] <;> decide
  exact List.all_eq_true.1 hall c hc

/-- The query of a link is the token of its outcome, as it stands, behind the key. -/
lemma toList_query (l : Link) :
    l.query.toList = "status=".toList ++ l.outcome.token.toList := by
  have hkey : Query.writePart "status".toList = "status".toList := by
    rw [String.toList_ofList]
    exact Query.writePart_of_isLiteral (List.all_eq_true.1 (by decide))
  have hmark : "status=".toList = "status".toList ++ ['='] := by
    rw [String.toList_ofList, String.toList_ofList]
    rfl
  rw [query, Query.write, Query.statusKey, String.toList_ofList, hkey, hmark,
    Query.writePart_of_isLiteral fun c => isLiteral_of_mem_token l.outcome]
  simp

lemma url_eq (l : Link) : l.url = "https://" ++ String.ofList l.authority.toText ++
    l.flow.route ++ "?status=" ++ l.outcome.token := by
  have hmark : "?status=".toList = "?".toList ++ "status=".toList := by
    rw [String.toList_ofList, String.toList_ofList, String.toList_ofList]
    rfl
  rw [← String.toList_inj]
  simp only [url, path, String.toList_append, toList_query, hmark, List.append_assoc]

/-- Nothing in a link names a user or a part of the page. -/
lemma not_mem_url (l : Link) {text : List Char} (hparse : Authority.parse text = .ok l.authority)
    {c : Char} (hc : c = '@' ∨ c = '#') : c ∉ l.url.toList := by
  have hauthority : c ∉ l.authority.toText := by
    refine Authority.not_mem_toText hparse ?_
    rcases hc with rfl | rfl <;> decide
  have htoken : c ∉ l.outcome.token.toList := by
    intro hmem
    have hliteral := isLiteral_of_mem_token l.outcome hmem
    rcases hc with rfl | rfl <;> exact absurd hliteral (by decide)
  -- the scheme, the routes and the key are the same in all links
  have hfixed : ∀ f : Flow,
      c ∉ "https://".toList ∧ c ∉ f.route.toList ∧ c ∉ "?status=".toList := by
    intro f
    rcases hc with rfl | rfl <;>
      cases f <;>
      unfold Flow.route <;>
      rw [String.toList_ofList, String.toList_ofList, String.toList_ofList] <;>
      decide
  obtain ⟨hscheme, hroute, hkey⟩ := hfixed l.flow
  rw [url_eq]
  simp only [String.toList_append, String.toList_ofList, List.mem_append, not_or]
  exact ⟨⟨⟨⟨hscheme, hauthority⟩, hroute⟩, hkey⟩, htoken⟩

/-- The shape of every link that is made. -/
theorem url_shape {host : String} {f : Flow} {o : Outcome f} {l : Link}
    (h : make host o = .ok l) :
    ∃ (name : List Char) (port : Option PortText),
      l.url = "https://" ++ String.ofList (name ++ PortText.behind port) ++ f.route ++
        "?status=" ++ o.token ∧
      IsHostText name ∧ (∀ p ∈ port, p.IsCanonical) ∧ name ++ PortText.behind port ≠ [] ∧
      (∀ c ∈ name ++ PortText.behind port,
        (0x20 < c.toNat ∧ c.toNat < 0x7F) ∧ c ∉ ['/', '\\', '?', '#', '@', '%']) ∧
      '@' ∉ l.url.toList ∧ '#' ∉ l.url.toList ∧
      ∃ query, WebAddress.ofText? l.url.toList =
          some ⟨name ++ PortText.behind port, f.route.toList, some query⟩ ∧
        Query.pairs (Utf8.encode query) = [("status", o.token)] := by
  obtain ⟨-, a, hparse, rfl⟩ := make_eq_ok_iff.1 h
  obtain ⟨name, port, htext, hname, hport⟩ := Authority.exists_toText_eq hparse
  refine ⟨name, port, ?_, hname, hport, ?_, ?_, not_mem_url _ hparse (Or.inl rfl),
    not_mem_url _ hparse (Or.inr rfl), _, ?_, Query.pairs_write _ _⟩
  · rw [url_eq, htext]
  · exact fun hnil => hname.ne_nil (List.append_eq_nil_iff.1 hnil).1
  · rw [← htext]
    exact fun c hc => of_isAuthorityChar (Authority.isAuthorityChar_of_mem_toText hparse hc)
  · rw [← htext]
    exact ofText?_url ⟨a, f, o⟩ hparse

lemma parse_escaped : Authority.parse ['ａ', '%', '4', '2', '.', 'c', ':', '0', '8', '4'] =
    .ok ⟨.name ['a', 'b', '.', 'c'], some 84⟩ := by
  have hname : (Utf8.decode? (Percent.decode (Utf8.encode ['ａ', '%', '4', '2', '.', 'c']))).bind
      Name.toAscii? = some ['a', 'b', '.', 'c'] := by
    decide +kernel
  have hnumeric : Ipv4.isNumeric ['a', 'b', '.', 'c'] = false := by decide +kernel
  have hhost : Host.parse ['ａ', '%', '4', '2', '.', 'c'] =
      .ok (.name ['a', 'b', '.', 'c']) := by
    rw [Host.parse, Host.ofUnbracketed, hname]
    · simp [Host.ofAscii, hnumeric]
    · exact List.cons_ne_nil _ _
    · exact fun cs heq => absurd (List.cons.inj heq).1 (by decide)
  have hclosed : Authority.IsClosed ['ａ', '%', '4', '2', '.', 'c'] :=
    Authority.isClosed_of_not_mem (by simp) (by simp)
  have hparse := Authority.parse_append hclosed (by simp)
    (some ⟨['0', '8', '4'], by decide, List.all_eq_true.1 (by decide)⟩)
  rw [hhost] at hparse
  exact hparse

/-- A host with a wide letter, an escape and a zero before its port. -/
theorem url_shape_escaped :
    make "id.ａ%42.c:084" (.success .confirmation) =
      .ok ⟨⟨.name ['a', 'b', '.', 'c'], some 84⟩, .confirmation, .success _⟩ ∧
    ∃ (name : List Char) (port : Option PortText),
      Link.url ⟨⟨.name ['a', 'b', '.', 'c'], some 84⟩, .confirmation, .success _⟩ =
        "https://" ++ String.ofList (name ++ PortText.behind port) ++
          Flow.route .confirmation ++ "?status=" ++ Outcome.token (.success .confirmation) ∧
      IsHostText name ∧ ∀ p ∈ port, p.IsCanonical := by
  have hmake : make "id.ａ%42.c:084" (.success .confirmation) =
      .ok ⟨⟨.name ['a', 'b', '.', 'c'], some 84⟩, .confirmation, .success _⟩ := by
    have hsub : HasSubdomain (trim "id.ａ%42.c:084".toList) ['i', 'd']
        ['ａ', '%', '4', '2', '.', 'c', ':', '0', '8', '4'] := by
      rw [String.toList_ofList]
      exact ⟨by decide, by decide, by decide⟩
    rw [make_eq_ok_iff, dropSubdomain_of_hasSubdomain hsub]
    exact ⟨by simp [delimiters], _, parse_escaped, rfl⟩
  obtain ⟨name, port, hurl, hname, hport, -⟩ := url_shape hmake
  exact ⟨hmake, name, port, hurl, hname, hport⟩

end Link

end ResultPages
