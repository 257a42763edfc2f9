/-
Following a link.

A link is printed as a web address.  Whoever follows it takes the address apart, connects to
the authority and asks it for the path and the query.  `answer_of_ofStatus` says what comes of
that, for every host that a link can be made on: the page of the flow that the link was made
for, with the message of the outcome that it names.

* No delimiter stands in the text of an authority that has been read, so the address is cut
  where it was put together (`ofText?_url`).
* What is asked for is a target in origin form (`parse_originForm`), its path leads to the
  page of the flow, and the status is read back from its query.
-/
import ResultPages.Link
import ResultPages.Proofs.Host.Characters
import ResultPages.Proofs.Http.OriginForm
import ResultPages.Proofs.Link.Bare
import ResultPages.Proofs.Query.Written
import ResultPages.Proofs.Service.Log
import ResultPages.Proofs.Service.PageAnswer

namespace ResultPages

/-- The parts of a web address that matter to who follows it. -/
structure WebAddress where
  /-- The host to connect to, with its port. -/
  authority : List Char
  /-- The path on that host. -/
  path : List Char
  /-- What follows the question mark, if there is one. -/
  query : Option (List Char)

namespace WebAddress

/-- Reads a web address behind `https://`.  What stands behind `#` is for the reader alone; the
authority reaches to the first slash or question mark, and the path to the first question
mark. -/
def ofText? (text : List Char) : Option WebAddress :=
  if "https://".toList.isPrefixOf text then
    let kept := (cut '#' (text.drop 8)).1
    let target := cut '?' (kept.dropWhile fun c => c ≠ '/' ∧ c ≠ '?')
    some ⟨kept.takeWhile fun c => c ≠ '/' ∧ c ≠ '?', target.1, target.2⟩
  else none

/-- What the host is asked for. -/
def originForm (w : WebAddress) : List Char :=
  (if w.path = [] then ['/'] else w.path) ++
    match w.query with
    | none => []
    | some q => '?' :: q

/-- An address is cut where it was put together. -/
lemma ofText?_append {authority path query : List Char}
    (hauthority : ∀ c ∈ ['/', '?', '#'], c ∉ authority)
    (hpath : ∀ c ∈ ['?', '#'], c ∉ '/' :: path) (hquery : '#' ∉ query) :
    ofText? ("https://".toList ++ (authority ++ ('/' :: path ++ '?' :: query))) =
      some ⟨authority, '/' :: path, some query⟩ := by
  -- there is no fragment to drop, and the first slash is the one of the path
  have hfragment : '#' ∉ authority ++ ('/' :: path ++ '?' :: query) := by
    intro h
    rcases List.mem_append.1 h with h | h
    · exact hauthority _ (by decide) h
    · rcases List.mem_append.1 h with h | h
      · exact hpath _ (by decide) h
      · rcases List.mem_cons.1 h with h | h
        · exact absurd h (by decide)
        · exact hquery h
  have hdelim : ∀ c ∈ authority, decide (c ≠ '/' ∧ c ≠ '?') = true := by
    intro c hc
    refine decide_eq_true ⟨?_, ?_⟩
    · rintro rfl
      exact hauthority _ (by decide) hc
    · rintro rfl
      exact hauthority _ (by decide) hc
  have hdrop : ("https://".toList ++ (authority ++ ('/' :: path ++ '?' :: query))).drop 8 =
      authority ++ ('/' :: path ++ '?' :: query) := by
    rw [String.toList_ofList]
    rfl
  have hprefix : "https://".toList.isPrefixOf
      ("https://".toList ++ (authority ++ ('/' :: path ++ '?' :: query))) := by
    rw [List.isPrefixOf_iff_prefix]
    exact List.prefix_append _ _
  have htake : (authority ++ ('/' :: path ++ '?' :: query)).takeWhile
      (fun c => c ≠ '/' ∧ c ≠ '?') = authority := by
    rw [List.takeWhile_append_of_pos hdelim, List.cons_append]
    simp
  have hrest : (authority ++ ('/' :: path ++ '?' :: query)).dropWhile
      (fun c => c ≠ '/' ∧ c ≠ '?') = '/' :: path ++ '?' :: query := by
    rw [List.dropWhile_append_of_pos hdelim, List.cons_append]
    simp
  have hcut : cut '?' ('/' :: path ++ '?' :: query) = ('/' :: path, some query) :=
    cut_append_cons (hpath _ (by decide)) query
  rw [ofText?, if_pos hprefix]
  simp only [hdrop, cut_of_not_mem hfragment, htake, hrest, hcut]

end WebAddress

namespace Link

/-! ### The address of a link -/

lemma toList_url (l : Link) : l.url.toList = "https://".toList ++
    (l.authority.toText ++ (l.flow.route.toList ++ '?' :: l.query.toList)) := by
  have hmark : "?".toList = ['?'] := String.toList_ofList
  simp only [url, path, String.toList_append, String.toList_ofList, hmark, List.append_assoc,
    List.singleton_append]

/-- The route of a flow is a path in origin form. -/
lemma exists_route_eq (f : Flow) : ∃ path, f.route.toList = '/' :: path ∧
    (∀ c ∈ ['?', '#'], c ∉ '/' :: path) ∧
    ('/'.toUInt8 :: Utf8.encode path).all Target.isPathOctet ∧
    (Utf8.encode path).length ≤ 100 := by
  cases f <;>
    unfold Flow.route <;>
    rw [String.toList_ofList] <;>
    exact ⟨_, rfl, by simp, by decide, by decide⟩

lemma isQueryOctet_of_isWritten {c : Char} (h : Query.isWritten c) :
    Target.isQueryOctet c.toUInt8 :=
  forall_ascii (P := fun c => Query.isWritten c → Target.isQueryOctet c.toUInt8)
    (by decide) (Query.toNat_lt_of_isWritten h) h

/-- Everything in a written query may stand in the query of a target. -/
lemma isQueryOctet_write (key value : String) :
    (Octets.ofString (Query.write key value)).all Target.isQueryOctet := by
  have hpart : ∀ cs, ∀ b ∈ Utf8.encode (Query.writePart cs), Target.isQueryOctet b := by
    intro cs b hb
    rw [Utf8.encode_of_ascii fun c hc =>
      Query.toNat_lt_of_isWritten (Query.isWritten_of_mem_writePart hc)] at hb
    obtain ⟨c, hc, rfl⟩ := List.mem_map.1 hb
    exact isQueryOctet_of_isWritten (Query.isWritten_of_mem_writePart hc)
  rw [Query.ofString_write, List.all_eq_true]
  intro b hb
  rcases List.mem_append.1 hb with hb | hb
  · exact hpart _ b hb
  · rcases List.mem_cons.1 hb with rfl | hb
    · decide
    · exact hpart _ b hb

lemma length_query_le {f : Flow} (o : Outcome f) :
    (Octets.ofString (Query.write Query.statusKey o.token)).length ≤ 100 := by
  rw [Query.ofString_write]
  unfold Query.statusKey
  rw [String.toList_ofList]
  cases o <;> unfold Outcome.token <;> rw [String.toList_ofList] <;> decide

lemma not_mem_query (l : Link) : '#' ∉ l.query.toList := by
  have hpart : ∀ cs, '#' ∉ Query.writePart cs := by
    intro cs h
    exact absurd (Query.isWritten_of_mem_writePart h) (by decide)
  rw [query, Query.write, String.toList_ofList, List.mem_append, List.mem_cons, not_or, not_or]
  exact ⟨hpart _, by decide, hpart _⟩

lemma exists_of_ofStatus {host : String} {f : Flow} {status : String} {l : Link}
    (h : ofStatus host f status = .ok l) :
    ∃ (o : Outcome f) (a : Authority) (text : List Char), status = o.token ∧
      Authority.parse text = .ok a ∧ l = ⟨a, f, o⟩ := by
  rw [ofStatus] at h
  split at h
  · next o ho =>
    obtain ⟨-, a, hparse, hl⟩ := make_eq_ok_iff.1 h
    exact ⟨o, a, _, Outcome.ofToken?_eq_some_iff.1 ho, hparse, hl⟩
  · cases h

/-- The target that is asked for when a link is followed. -/
def target (l : Link) : Target :=
  ⟨[], [], .ofString l.flow.route, some (.ofString l.query)⟩

lemma status?_target (l : Link) :
    l.target.query.bind Query.status? = some l.outcome.token := by
  rw [target, Option.bind_some, query, Query.status?_write]

lemma ofPath?_target (l : Link) : Route.ofPath? l.target.path = some (.page l.flow) := by
  rw [target, Route.ofPath?_route]

/-- A link whose host has been read is taken apart into its parts. -/
lemma ofText?_url (l : Link) {text : List Char}
    (hparse : Authority.parse text = .ok l.authority) : WebAddress.ofText? l.url.toList =
      some ⟨l.authority.toText, l.flow.route.toList, some l.query.toList⟩ := by
  obtain ⟨path, hroute, hpath, -⟩ := exists_route_eq l.flow
  have hauthority : ∀ c ∈ ['/', '?', '#'], c ∉ l.authority.toText := by
    intro c hc
    refine Authority.not_mem_toText hparse ?_
    simp only [List.mem_cons, List.not_mem_nil, or_false] at hc
    rcases hc with rfl | rfl | rfl <;> decide
  have hread := WebAddress.ofText?_append hauthority hpath (not_mem_query l)
  rwa [← hroute, ← toList_url] at hread

/-- These parts make its target. -/
lemma parse_originForm_url (l : Link) {text : List Char}
    (hparse : Authority.parse text = .ok l.authority) :
    ∃ w : WebAddress, WebAddress.ofText? l.url.toList = some w ∧
      w.authority = l.authority.toText ∧ Target.parse (Utf8.encode w.originForm) = .ok l.target ∧
      l.target.query = w.query.map Utf8.encode := by
  obtain ⟨path, hroute, -, hoctets, hlength⟩ := exists_route_eq l.flow
  refine ⟨_, ofText?_url l hparse, rfl, ?_, rfl⟩
  have hform : Utf8.encode (WebAddress.originForm
      ⟨l.authority.toText, l.flow.route.toList, some l.query.toList⟩) =
      '/'.toUInt8 :: Utf8.encode path ++ '?'.toUInt8 :: Octets.ofString l.query := by
    rw [WebAddress.originForm, hroute, if_neg (List.cons_ne_nil _ _), List.cons_append,
      Utf8.encode_cons_of_ascii (by decide), Utf8.encode_append,
      Utf8.encode_cons_of_ascii (by decide)]
    rfl
  have hstart : Octets.ofString l.flow.route = '/'.toUInt8 :: Utf8.encode path := by
    rw [Octets.ofString, hroute, Utf8.encode_cons_of_ascii (by decide)]
  have hquery : (Octets.ofString l.query).all Target.isQueryOctet := isQueryOctet_write _ _
  have hshort : (Octets.ofString l.query).length ≤ 100 := length_query_le l.outcome
  rw [hform, target, hstart]
  exact Target.parse_originForm hoctets hquery (by omega)

/-! ### The page behind a link -/

/-- Link and page agree, for every host, flow and status for which there is a link: its address
is taken apart without loss, what is asked for is a target, and the answer to it is the page
of the same flow with the message of that very status, which nothing is reported about. -/
theorem answer_of_ofStatus {host : String} {f : Flow} {status : String} {l : Link}
    (h : ofStatus host f status = .ok l) :
    ∃ (w : WebAddress) (t : Target) (o : Outcome f),
      WebAddress.ofText? l.url.toList = some w ∧
      w.authority = l.authority.toText ∧
      Target.parse (Utf8.encode w.originForm) = .ok t ∧
      t.query = w.query.map Utf8.encode ∧
      t.query.bind Query.status? = some status ∧
      status = o.token ∧
      ∀ (s : Service) (fresh : Ulid) (r : Request), r.method = "GET" → r.target = t →
        (s.answer fresh r).status = 200 ∧
        (s.answer fresh r).body = (Page.ofStatus f s.title (some status)).html ∧
        Markup.textBehind? "<p id=\"statusMessage\">".toList
          (s.answer fresh r).body.toList = some o.message.toList ∧
        ∀ (g : Flow) (t : String), LogRecord.unrecognizedStatus g t ∉ s.log fresh r := by
  obtain ⟨o, a, text, rfl, hparse, rfl⟩ := exists_of_ofStatus h
  -- the address and its target
  obtain ⟨w, hread, hauthority, htarget, hquery⟩ := parse_originForm_url ⟨a, f, o⟩ hparse
  have hstatus := status?_target ⟨a, f, o⟩
  have hroute := ofPath?_target ⟨a, f, o⟩
  refine ⟨w, _, o, hread, hauthority, htarget, hquery, hstatus, rfl, ?_⟩
  -- the answer
  rintro s fresh r hmethod htarget
  rw [← htarget] at hstatus hroute
  obtain ⟨hcode, hbody⟩ := s.answer_get_page fresh hmethod hroute
  rw [hstatus] at hbody
  refine ⟨hcode, hbody, ?_, ?_⟩
  · rw [hbody, ← Page.toList_displayTag, Page.textBehind?_displayTag, Outcome.ofStatus_token]
  · intro g t hmem
    obtain ⟨-, hpage, ht, hunknown⟩ := Service.unrecognizedStatus_mem_log_iff.1 hmem
    obtain rfl : f = g := Route.page.inj (Option.some.inj (hroute.symm.trans hpage))
    obtain rfl : o.token = t := Option.some.inj (hstatus.symm.trans ht)
    rw [Outcome.ofToken?_token] at hunknown
    cases hunknown

lemma ofStatus_id_example_com :
    ofStatus "id.example.com" .confirmation "already_confirmed" =
      .ok ⟨⟨.name "example.com".toList, none⟩, .confirmation, .alreadyConfirmed⟩ := by
  have htoken : Outcome.ofToken? .confirmation "already_confirmed" = some .alreadyConfirmed :=
    Outcome.ofToken?_token .alreadyConfirmed
  have hsub : HasSubdomain (trim "id.example.com".toList) ['i', 'd'] "example.com".toList := by
    rw [String.toList_ofList, String.toList_ofList]
    exact ⟨by decide, by decide, by decide⟩
  have hparse : Authority.parse "example.com".toList =
      .ok ⟨.name "example.com".toList, none⟩ := by
    rw [String.toList_ofList]
    exact Authority.parse_of_isPlainChar (by decide) (by decide) (by decide +kernel)
      (by decide)
  have hmake : make "id.example.com" (f := .confirmation) .alreadyConfirmed =
      .ok ⟨⟨.name "example.com".toList, none⟩, .confirmation, .alreadyConfirmed⟩ := by
    rw [make_eq_ok_iff, dropSubdomain_of_hasSubdomain hsub]
    refine ⟨?_, _, hparse, rfl⟩
    rw [String.toList_ofList]
    simp [delimiters]
  rw [ofStatus, htoken]
  exact hmake

/-- A link that leads from one host to another, and what the user is told there. -/
theorem answer_of_link_from_id_example_com :
    ∃ l, ofStatus "id.example.com" .confirmation "already_confirmed" = .ok l ∧
      ∃ (w : WebAddress) (t : Target), WebAddress.ofText? l.url.toList = some w ∧
        w.authority = "example.com".toList ∧ Target.parse (Utf8.encode w.originForm) = .ok t ∧
        ∀ (s : Service) (fresh : Ulid) (r : Request), r.method = "GET" → r.target = t →
          Markup.textBehind? "<p id=\"statusMessage\">".toList
            (s.answer fresh r).body.toList =
              some (Outcome.message .alreadyConfirmed).toList := by
  obtain ⟨w, t, o, hread, hauthority, hparse, -, -, htoken, hanswer⟩ :=
    answer_of_ofStatus ofStatus_id_example_com
  obtain rfl : .alreadyConfirmed = o := by
    have hsome := Outcome.ofToken?_token o
    rw [← htoken] at hsome
    exact Option.some.inj ((Outcome.ofToken?_token .alreadyConfirmed).symm.trans hsome)
  refine ⟨_, ofStatus_id_example_com, w, t, hread, ?_, hparse, ?_⟩
  · rw [hauthority, Authority.toText, Host.toText, List.append_nil]
  · exact fun s fresh r hmethod htarget => (hanswer s fresh r hmethod htarget).2.2.1

end Link

end ResultPages
