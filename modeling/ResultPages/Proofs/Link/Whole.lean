/-
Hosts of which nothing is a subdomain.

An address has no labels, and a name of one or two labels has no subdomain.  But dots are counted
in the text of a host, so octets of an address are taken for labels, and so is the empty text
behind the last dot of a name.  `WholeHost.linked` is the host that a link then leads to
(`make_whole`), and it is the host that was given in these cases only (`denotes_iff_isKept`):

* an IPv4 address that begins with three zeros,
* an IPv6 address without octets,
* a name of one label, and a name of two labels without a dot behind.
-/
import ResultPages.Proofs.Host.Ipv6Text
import ResultPages.Proofs.Host.Ordinary
import ResultPages.Proofs.Host.Port
import ResultPages.Proofs.Link.Bare

namespace ResultPages

/-- A host of which nothing is a subdomain. -/
inductive WholeHost where
  /-- An IPv4 address in dotted decimal form. -/
  | ipv4 (x : Ipv4)
  /-- An IPv6 address in brackets. -/
  | ipv6 (x : Ipv6) (text : List Char) (spells : Ipv6.Spells text x.pieces)
  /-- A name of one or two labels, with or without a dot behind the last one. -/
  | name (ls : List (List Char)) (ordinary : IsOrdinaryName ls) (short : ls.length ≤ 2)
      (rooted : Bool)

namespace WholeHost

/-- The host as it is written. -/
def text : WholeHost → List Char
  | ipv4 x => x.toText
  | ipv6 _ text _ => '[' :: (text ++ [']'])
  | name ls _ _ rooted => nameText ls rooted

/-- Whether a host is the same address, or the same name up to letter case and the last dot. -/
def Denotes : WholeHost → Host → Prop
  | ipv4 x, h => h = .ipv4 x
  | ipv6 x _ _, h => h = .ipv6 x
  | name ls _ _ _, h => ∃ rooted, h = .name (nameText (ls.map (List.map Char.toLower)) rooted)

/-- What the link leads to: what is left of the host when the text before the first of two dots
is dropped. -/
def linked : WholeHost → Except HostError Host
  | ipv4 x => .ok (.ipv4 ⟨x.b, x.c, 0, x.d⟩)
  | ipv6 x text _ => if '.' ∈ text then .error .invalidName else .ok (.ipv6 x)
  | name ls _ _ rooted =>
    let kept := if rooted then ls.drop (ls.length - 1) else ls
    .ok (.name (nameText (kept.map (List.map Char.toLower)) rooted))

/-- The hosts that a link leads back to. -/
def IsKept : WholeHost → Prop
  | ipv4 x => x.a = 0 ∧ x.b = 0 ∧ x.c = 0
  | ipv6 _ text _ => '.' ∉ text
  | name ls _ _ rooted => ls.length = 1 ∨ rooted = false

/-! ### The host as a whole -/

/-- Read as a whole, every host is the one that is meant. -/
theorem exists_parse_text (w : WholeHost) : ∃ h, Host.parse w.text = .ok h ∧ w.Denotes h := by
  cases w with
  | ipv4 x => exact ⟨_, Ipv4.parse_toText x, rfl⟩
  | ipv6 x text spells => exact ⟨_, spells.parse_brackets, rfl⟩
  | name ls ordinary _ rooted => exact ⟨_, Host.parse_nameText ordinary rooted, rooted, rfl⟩

lemma isAuthorityChar_of_mem_text {w : WholeHost} {c : Char} (hc : c ∈ w.text) :
    isAuthorityChar c := by
  cases w with
  | ipv4 x => exact isAuthorityChar_of_isPlainChar (Ipv4.isPlainChar_of_mem_toText hc)
  | ipv6 x text spells =>
      rw [WholeHost.text, List.mem_cons, List.mem_append, List.mem_singleton] at hc
      rcases hc with rfl | hc | rfl
      · exact isAuthorityChar_of_mem_marks (by decide)
      · rcases spells.isPlainChar_or_colon hc with h | rfl
        · exact isAuthorityChar_of_isPlainChar h
        · exact isAuthorityChar_of_mem_marks (by decide)
      · exact isAuthorityChar_of_mem_marks (by decide)
  | name ls ordinary _ rooted =>
      exact isAuthorityChar_of_isPlainChar (ordinary.isPlainChar_of_mem hc)

/-! ### What is left of the host -/

/-- A text that the reader takes to its end as a host, and what it makes of it. -/
structure IsRead (left : List Char) (r : Except HostError Host) : Prop where
  closed : Authority.IsClosed left
  parse : Host.parse left = r

lemma isRead_of_isPlainChar {left : List Char} (h : ∀ c ∈ left, isPlainChar c) :
    IsRead left (Host.parse left) :=
  ⟨Authority.isClosed_of_isPlainChar h, rfl⟩

lemma isRead_ipv4 (x : Ipv4) : IsRead (dropSubdomain x.toText) (linked (.ipv4 x)) := by
  have hsub : HasSubdomain x.toText (Nat.toDigits 10 x.a.toNat)
      (Ipv4.dotted [x.b.toNat, x.c.toNat, x.d.toNat]) := by
    refine ⟨rfl, Ipv4.dot_not_mem_toDigits _, ?_⟩
    exact mem_join_iff.2 (Or.inl ⟨rfl, by simp⟩)
  rw [dropSubdomain_of_hasSubdomain hsub, linked, ← Ipv4.parse_dotted_three]
  exact isRead_of_isPlainChar fun c => Ipv4.isPlainChar_of_mem_dotted

lemma of_mem_dotted_bracket {ns : List Nat} {c : Char} (hc : c ∈ Ipv4.dotted ns ++ [']']) :
    c.isDigit ∨ c = '.' ∨ c = ']' := by
  rcases List.mem_append.1 hc with hc | hc
  · exact (Ipv4.isDigit_or_dot_of_mem_dotted hc).imp_right Or.inl
  · exact Or.inr (Or.inr (List.mem_singleton.1 hc))

/-- A closing bracket behind octets makes that no host. -/
lemma isRead_dotted_bracket (ns : List Nat) :
    IsRead (Ipv4.dotted ns ++ [']']) (.error .invalidName) := by
  have hnot : ∀ d : Char, ¬ d.isDigit → d ≠ '.' → d ≠ ']' → d ∉ Ipv4.dotted ns ++ [']'] :=
    fun d hdigit hdot hclose hd => (of_mem_dotted_bracket hd).elim hdigit
      fun h => h.elim hdot hclose
  have hopen := hnot '[' (by decide) (by decide) (by decide)
  have hascii : ∀ c ∈ Ipv4.dotted ns ++ [']'], c.toNat < 128 ∧ c.toLower = c := by
    intro c hc
    rcases of_mem_dotted_bracket hc with h | rfl | rfl
    · exact ⟨toNat_lt_of_isDigit h, toLower_of_isDigit h⟩
    · decide
    · decide
  have hlower : (Ipv4.dotted ns ++ [']']).map Char.toLower = Ipv4.dotted ns ++ [']'] :=
    (List.map_congr_left fun c hc => (hascii c hc).2).trans (List.map_id _)
  have hplain := Name.isPlain_of_not_mem (fun c hc => (hascii c hc).1)
    (hnot 'x' (by decide) (by decide) (by decide))
  have hforbidden : (Ipv4.dotted ns ++ [']']).any Name.isForbidden := by
    rw [List.any_eq_true]
    refine ⟨']', by simp, ?_⟩
    rw [Name.isForbidden_eq]
    decide
  have hname : Name.toAscii? (Ipv4.dotted ns ++ [']']) = none := by
    rw [Name.toAscii?, hlower]
    simp only [hplain, if_true]
    rw [Name.plain?, if_pos hforbidden]
  refine ⟨Authority.isClosed_of_not_mem (hnot ':' (by decide) (by decide) (by decide)) hopen, ?_⟩
  rw [Host.parse_eq_of_not_mem (by simp) hopen (hnot '%' (by decide) (by decide) (by decide)),
    hname]

lemma isRead_ipv6 {x : Ipv6} {text : List Char} (spells : Ipv6.Spells text x.pieces) :
    IsRead (dropSubdomain ('[' :: (text ++ [']']))) (linked (.ipv6 x text spells)) := by
  by_cases hdot : '.' ∈ text
  · obtain ⟨front, y, rfl, hfront⟩ := spells.exists_quad hdot
    have hsub : HasSubdomain ('[' :: (front ++ y.toText ++ [']']))
        ('[' :: (front ++ Nat.toDigits 10 y.a.toNat))
        (Ipv4.dotted [y.b.toNat, y.c.toNat, y.d.toNat] ++ [']']) := by
      refine ⟨?_, ?_, ?_⟩
      · simp [Ipv4.toText, Ipv4.dotted, join]
      · rw [List.mem_cons, List.mem_append, not_or, not_or]
        exact ⟨by decide, hfront, Ipv4.dot_not_mem_toDigits _⟩
      · exact List.mem_append_left _ (mem_join_iff.2 (Or.inl ⟨rfl, by simp⟩))
    rw [dropSubdomain_of_hasSubdomain hsub, linked, if_pos hdot]
    exact isRead_dotted_bracket _
  · have hsub : ¬ ∃ first rest, HasSubdomain ('[' :: (text ++ [']'])) first rest := by
      rintro ⟨first, rest, hsub⟩
      have hmem : '.' ∈ '[' :: (text ++ [']']) := by
        rw [hsub.eq_append]
        simp
      simp [hdot] at hmem
    have hclose : ']' ∉ text := fun h =>
      (spells.isPlainChar_or_colon h).elim (fun h => absurd h (by decide)) (by decide)
    rw [dropSubdomain_eq_self hsub, linked, if_neg hdot]
    exact ⟨Authority.isClosed_brackets hclose, spells.parse_brackets⟩

lemma isRead_name {ls : List (List Char)} (ordinary : IsOrdinaryName ls) (short : ls.length ≤ 2)
    (rooted : Bool) :
    IsRead (dropSubdomain (nameText ls rooted)) (linked (.name ls ordinary short rooted)) := by
  have hread : ∀ {ks}, IsOrdinaryName ks → IsRead (nameText ks rooted)
      (.ok (.name (nameText (ks.map (List.map Char.toLower)) rooted))) := by
    intro ks hks
    rw [← Host.parse_nameText hks]
    exact isRead_of_isPlainChar fun c => hks.isPlainChar_of_mem
  have hself : (ls ++ if rooted then [[]] else []).length ≤ 2 →
      dropSubdomain (nameText ls rooted) = nameText ls rooted := by
    intro hlength
    refine dropSubdomain_eq_self fun hsub => ?_
    rw [← two_lt_length_labels_iff, ordinary.labels_eq] at hsub
    omega
  match ls, ordinary, short, rooted with
  | [l], ordinary, _, rooted =>
      rw [hself (by cases rooted <;> simp), linked]
      simpa using hread ordinary
  | [k, l], ordinary, _, false =>
      rw [hself (by simp), linked]
      exact hread ordinary
  | [k, l], ordinary, _, true =>
      have hsub : HasSubdomain (nameText [k, l] true) k (nameText [l] true) := by
        refine ⟨by simp [nameText, join], (ordinary.ordinary k (by simp)).dot_not_mem, ?_⟩
        exact List.mem_append_right _ (List.mem_singleton_self _)
      rw [dropSubdomain_of_hasSubdomain hsub, linked]
      exact hread ordinary.tail

lemma isRead_left (w : WholeHost) : IsRead (dropSubdomain w.text) w.linked := by
  cases w with
  | ipv4 x => exact isRead_ipv4 x
  | ipv6 x text spells => exact isRead_ipv6 spells
  | name ls ordinary short rooted => exact isRead_name ordinary short rooted

/-- A name is not the one that is left when its first label is dropped. -/
lemma nameText_tail_ne {k l : List Char} (ordinary : IsOrdinaryName [k, l]) (rooted : Bool) :
    nameText [l] true ≠ nameText [k, l] rooted := by
  intro heq
  have hlabels := ordinary.labels_eq rooted
  rw [← heq, ordinary.tail.labels_eq] at hlabels
  cases rooted with
  | true => simp at hlabels
  | false =>
      have hl : l = [] := by simpa using (List.cons.inj hlabels).2.symm
      exact (ordinary.ordinary l (by simp)).ne_nil hl

/-- The link leads back to the host exactly if the host is kept. -/
theorem denotes_iff_isKept (w : WholeHost) :
    (∃ h, w.linked = .ok h ∧ w.Denotes h) ↔ w.IsKept := by
  cases w with
  | ipv4 x =>
      obtain ⟨a, b, c, d⟩ := x
      simp only [linked, Except.ok.injEq, Denotes, exists_eq_left', Host.ipv4.injEq,
        Ipv4.mk.injEq, IsKept]
      constructor
      · rintro ⟨rfl, rfl, rfl, -⟩
        exact ⟨rfl, rfl, rfl⟩
      · rintro ⟨rfl, rfl, rfl⟩
        exact ⟨rfl, rfl, rfl, trivial⟩
  | ipv6 x text spells =>
      by_cases hdot : '.' ∈ text <;> simp [linked, Denotes, IsKept, hdot]
  | name ls ordinary short rooted =>
      simp only [linked, Except.ok.injEq, Denotes, exists_eq_left', Host.name.injEq, IsKept]
      match ls, ordinary, short, rooted with
      | [l], _, _, rooted => exact iff_of_true ⟨rooted, by simp⟩ (Or.inl rfl)
      | [k, l], _, _, false => exact iff_of_true ⟨false, rfl⟩ (Or.inr rfl)
      | [k, l], ordinary, _, true =>
          refine iff_of_false ?_ (by simp)
          rintro ⟨rooted, heq⟩
          exact nameText_tail_ne ordinary.map_toLower rooted heq

end WholeHost

/-! ### The link -/

namespace Link

/-- The link on a host of which nothing is a subdomain. -/
theorem make_whole (w : WholeHost) {p : Option PortText} (hp : ∀ q ∈ p, q.value ≤ 65535)
    {f : Flow} (o : Outcome f) : make (String.ofList (w.text ++ PortText.behind p)) o =
      match w.linked with
      | .ok h => .ok ⟨⟨h, PortText.number? p⟩, f, o⟩
      | .error e => .error (.invalidHost
          (String.ofList (dropSubdomain w.text ++ PortText.behind p)) e) := by
  have hleft := w.isRead_left
  have hchar : ∀ c ∈ w.text, isAuthorityChar c := fun c => WholeHost.isAuthorityChar_of_mem_text
  have hrest : dropSubdomain (trim (String.ofList (w.text ++ PortText.behind p)).toList) =
      dropSubdomain w.text ++ PortText.behind p := by
    rw [String.toList_ofList, ← dropSubdomain_trim (List.forall_mem_nil _) hchar
      (List.forall_mem_nil _) p, List.nil_append, List.append_nil]
  have hsuffix : ∀ c ∈ dropSubdomain w.text, isAuthorityChar c := fun c hc =>
    hchar c ((dropSubdomain_suffix w.text).mem hc)
  have hne : w.text ≠ [] := by
    intro hnil
    obtain ⟨h, hparse, -⟩ := w.exists_parse_text
    rw [hnil] at hparse
    cases hparse
  have hport : ¬ ∃ q ∈ p, 65535 < q.value := fun ⟨q, hq, hlt⟩ => Nat.not_lt.2 (hp q hq) hlt
  rw [make_of_isClosed hrest (dropSubdomain_ne_nil hne) hleft.closed hsuffix, hleft.parse]
  cases w.linked with
  | error e => rfl
  | ok h => exact if_neg hport

/-- The link on a host of which nothing is a subdomain leads to that host exactly if the host is
kept.  In the other cases it leads to what is left of the host, if that can be read. -/
theorem leads_to_whole_iff (w : WholeHost) {p : Option PortText}
    (hp : ∀ q ∈ p, q.value ≤ 65535) {f : Flow} (o : Outcome f) :
    ((∃ l, make (String.ofList (w.text ++ PortText.behind p)) o = .ok l ∧
      w.Denotes l.authority.host) ↔ w.IsKept) ∧
    ∀ l, make (String.ofList (w.text ++ PortText.behind p)) o = .ok l ↔
      ∃ h, w.linked = .ok h ∧ l = ⟨⟨h, PortText.number? p⟩, f, o⟩ := by
  have hok : ∀ l, make (String.ofList (w.text ++ PortText.behind p)) o = .ok l ↔
      ∃ h, w.linked = .ok h ∧ l = ⟨⟨h, PortText.number? p⟩, f, o⟩ := by
    intro l
    rw [make_whole w hp]
    cases w.linked with
    | error e => simp
    | ok h => simp [eq_comm]
  refine ⟨?_, hok⟩
  rw [← w.denotes_iff_isKept]
  constructor
  · rintro ⟨l, hl, hdenotes⟩
    obtain ⟨h, hlinked, rfl⟩ := (hok l).1 hl
    exact ⟨h, hlinked, hdenotes⟩
  · rintro ⟨h, hlinked, hdenotes⟩
    exact ⟨_, (hok _).2 ⟨h, hlinked, rfl⟩, hdenotes⟩

/-- The address of this host loses its first octet, and the link leads to another machine. -/
theorem make_loopback : (∀ q ∈ some (PortText.ofNat 8080), q.value ≤ 65535) ∧
    make "127.0.0.1:8080" (.success .confirmation) =
      .ok ⟨⟨.ipv4 ⟨0, 0, 0, 1⟩, some 8080⟩, .confirmation, .success _⟩ := by
  have hport : ∀ q ∈ some (PortText.ofNat 8080), q.value ≤ 65535 := by simp
  refine ⟨hport, ?_⟩
  exact ((leads_to_whole_iff (.ipv4 ⟨127, 0, 0, 1⟩) hport _).2 _).2 ⟨_, rfl, rfl⟩

/-- Not every host of which nothing is a subdomain is led to. -/
theorem not_forall_leads_to_whole : ¬ ∀ (w : WholeHost) (p : Option PortText),
    (∀ q ∈ p, q.value ≤ 65535) → ∀ (f : Flow) (o : Outcome f),
      ∃ l, make (String.ofList (w.text ++ PortText.behind p)) o = .ok l ∧
        w.Denotes l.authority.host := by
  intro h
  have hport : ∀ q ∈ (none : Option PortText), q.value ≤ 65535 := by simp
  obtain ⟨l, hl, hdenotes⟩ := h (.ipv4 ⟨127, 0, 0, 1⟩) none hport .confirmation (.success _)
  rw [make_whole _ hport] at hl
  obtain rfl := Except.ok.inj hl
  have hsame : Host.ipv4 ⟨0, 0, 0, 1⟩ = .ipv4 ⟨127, 0, 0, 1⟩ := hdenotes
  exact absurd hsame (by decide)

end Link

end ResultPages
