/-
What the layers make of a handler.

There is one lemma for each layer, for any handler inside it.  They are put together in two
equations, one for the answer and one for the log.

* Whatever handler is chosen, its answer keeps its status and its own headers, and gets the
  headers for other origins, the identifier of the request, the methods of the route if the
  method is refused, and the length of its body, each of them once (`answer_eq`).
* The log begins with the record of the request.  The records of the handler follow, unless the
  request does not get as far as the handler (`log_eq`).

In both the identifier is the same, since it is put into the request before anything else looks
at it.
-/
import ResultPages.Proofs.Http.Header
import ResultPages.Proofs.Text.Ascii
import ResultPages.Service

namespace ResultPages

namespace Layer

variable (fresh : Ulid) (inner : Handler) (r : Request)

/-! ### Identifiers -/

/-- An identifier that the log can show: tabs and printable characters of ASCII. -/
def IsVisible (id : Octets) : Prop := ∀ b ∈ id, b = 0x09 ∨ 0x20 ≤ b ∧ b ≤ 0x7E

/-- The digits of a fresh identifier can be shown. -/
lemma isVisible_fresh : IsVisible (.ofString fresh.toText) := by
  have hdigit : ∀ n < 32, (Ulid.digit n).toNat < 128 ∧
      0x20 ≤ (Ulid.digit n).toUInt8 ∧ (Ulid.digit n).toUInt8 ≤ 0x7E := by decide
  have hmem : ∀ c ∈ fresh.toText.toList, ∃ n < 32, c = Ulid.digit n := by
    intro c hc
    rw [Ulid.toText, String.toList_ofList, List.mem_map] at hc
    obtain ⟨i, -, rfl⟩ := hc
    exact ⟨_, Nat.mod_lt _ (by decide), rfl⟩
  have hascii : ∀ c ∈ fresh.toText.toList, c.toNat < 128 := by
    intro c hc
    obtain ⟨n, hn, rfl⟩ := hmem c hc
    exact (hdigit n hn).1
  intro b hb
  rw [Octets.ofString, Utf8.encode_of_ascii hascii, List.mem_map] at hb
  obtain ⟨c, hc, rfl⟩ := hb
  obtain ⟨n, hn, rfl⟩ := hmem c hc
  exact Or.inr (hdigit n hn).2

/-- What the log can show may be the value of a header. -/
lemma IsVisible.isValue {id : Octets} (h : IsVisible id) : isValue id := by
  rw [ResultPages.isValue, List.all_eq_true]
  intro b hb
  rw [isValueOctet, Bool.or_eq_true, beq_iff_eq, Bool.and_eq_true, decide_eq_true_eq,
    decide_eq_true_eq]
  obtain rfl | ⟨hge, hle⟩ := h b hb
  · exact Or.inr rfl
  · refine Or.inl ⟨hge, ?_⟩
    rintro rfl
    exact absurd hle (by decide)

/-- The identifier of a request: the first one that was sent, or else a fresh one. -/
def requestId : Octets := (r.header? idName).getD (.ofString fresh.toText)

/-- The request with its identifier. -/
def withId : Request :=
  { r with headers := (Header.ofText idName fresh.toText).offer r.headers }

/-- The layers further in get the request with its identifier. -/
lemma provideId_apply : provideId fresh inner r = inner (withId fresh r) := by
  rw [provideId, Header.ofText?, if_pos (isVisible_fresh fresh).isValue]
  rfl

lemma header?_withId : (withId fresh r).header? idName = some (requestId fresh r) := by
  have hvalues : Header.valuesOf idName (withId fresh r).headers =
      if Header.valuesOf idName r.headers = [] then [.ofString fresh.toText]
      else Header.valuesOf idName r.headers :=
    Header.valuesOf_offer (.ofText idName fresh.toText) r.headers
  rw [requestId, Request.header?, Request.header?, hvalues]
  cases Header.valuesOf idName r.headers with
  | nil => rfl
  | cons id ids => rfl

/-- The identifier is returned, whatever else the answer says. -/
lemma returnId_apply {id : Octets} (hid : r.header? idName = some id) : returnId inner r =
    (inner r).mapResponse fun a => a.mapHeaders (Header.offer ⟨idName, id⟩) := by
  rw [returnId, hid]

/-- The record of a request and the answer have the same identifier. -/
theorem stack_apply : stack fresh inner r =
    ⟨(cors inner (withId fresh r)).response.mapHeaders
        (Header.offer ⟨idName, requestId fresh r⟩),
      .request r.target.path.toStringLossy (shownId (some (requestId fresh r))) ::
        (cors inner (withId fresh r)).log⟩ := by
  have hid := header?_withId fresh r
  rw [stack, Function.comp_apply, Function.comp_apply, Function.comp_apply, provideId_apply,
    returnId_apply _ _ hid, trace, hid]
  rfl

end Layer

/-! ### Handlers -/

/-- An answer has no other headers than those that handlers write. -/
def Response.HasOwnNames (a : Response) : Prop :=
  ∀ h ∈ a.headers, h.name = "content-type" ∨ h.name = "x-app"

namespace Service

open Layer

variable (s : Service) (fresh : Ulid) (r : Request)

lemma hasOwnNames_bare (status : Nat) : (Response.bare status []).HasOwnNames :=
  fun _ hh => absurd hh List.not_mem_nil

lemma hasOwnNames_document (status : Nat) (type body : String) :
    Response.HasOwnNames ⟨status, [.ofText "content-type" type], body⟩ := by
  intro h hh
  obtain rfl := List.mem_singleton.1 hh
  exact Or.inl rfl

/-- The health document, told by the method: body and type are for `GET`, and the build is in
the headers if it can be. -/
lemma healthResponse_eq (build : Health) (method : String) : healthResponse build method =
    ⟨200, (if method = "GET" then [.ofText "content-type" "application/json"] else []) ++
        (Header.ofText? "x-app" build.appId).toList,
      if method = "GET" then build.json else ""⟩ := by
  rw [healthResponse, healthReply, Header.ofText?]
  by_cases hget : method = "GET"
  · by_cases hvalue : isValue (.ofString build.appId)
    · simp only [if_pos hget, if_pos hvalue]
      rfl
    · simp only [if_pos hget, if_neg hvalue]
      rfl
  · by_cases hvalue : isValue (.ofString build.appId)
    · simp only [if_neg hget, if_pos hvalue]
      rfl
    · simp only [if_neg hget, if_neg hvalue]
      rfl

lemma hasOwnNames_healthResponse (build : Health) (method : String) :
    (healthResponse build method).HasOwnNames := by
  rw [healthResponse_eq]
  intro h hh
  rcases List.mem_append.1 hh with hh | hh
  · split at hh
    · obtain rfl := List.mem_singleton.1 hh
      exact Or.inl rfl
    · cases hh
  · rw [Option.mem_toList, Header.ofText?, Option.ite_none_right_eq_some,
      Option.some.injEq] at hh
    rw [← hh.2]
    exact Or.inr rfl

/-- A request is served by the handler of a route, or refused, or finds nothing. -/
lemma choose_cases : s.choose r = .notFound ∨ s.choose r = .notAllowed ∨
    ∃ route, s.choose r = s.handler route := by
  rw [choose]
  cases Route.ofPath? r.target.path with
  | none => exact Or.inl rfl
  | some route =>
      by_cases hmethod : r.method ∈ route.methods
      · exact Or.inr (Or.inr ⟨route, if_pos hmethod⟩)
      · exact Or.inr (Or.inl (if_neg hmethod))

lemma hasOwnNames_choose (r' : Request) : (s.choose r r').response.HasOwnNames := by
  obtain hchoose | hchoose | ⟨route, hchoose⟩ := choose_cases s r
  · rw [hchoose, Handler.notFound]
    exact hasOwnNames_bare _
  · rw [hchoose, Handler.notAllowed]
    exact hasOwnNames_bare _
  · rw [hchoose]
    cases route with
    | page f =>
        rw [handler, Handler.page, pageResponse]
        exact hasOwnNames_document _ _ _
    | health =>
        rw [handler, Handler.health]
        exact hasOwnNames_healthResponse _ _
    | description =>
        rw [handler, Handler.description, descriptionResponse]
        exact hasOwnNames_document _ _ _

/-- A handler looks at nothing but the method and the query. -/
lemma handler_congr {r r' : Request} (hmethod : r.method = r'.method)
    (hquery : r.target.query = r'.target.query) (route : Route) :
    s.handler route r = s.handler route r' := by
  cases route with
  | page f => rw [handler, Handler.page, Handler.page, hquery]
  | health => rw [handler, Handler.health, Handler.health, hmethod]
  | description => rfl

/-- No handler sees the identifier. -/
lemma choose_withId : s.choose r (withId fresh r) = s.choose r r := by
  obtain hchoose | hchoose | ⟨route, hchoose⟩ := choose_cases s r
  · rw [hchoose, Handler.notFound, Handler.notFound]
  · rw [hchoose, Handler.notAllowed, Handler.notAllowed]
  · rw [hchoose]
    have hmethod : (withId fresh r).method = r.method := rfl
    exact handler_congr s hmethod rfl route

/-! ### The answer -/

/-- What an answer says of its own: what the handler says, but for `OPTIONS`, with which no
handler is asked. -/
def own : Response :=
  if r.method = "OPTIONS" then .bare 200 [methodsHeader] else (s.choose r r).response

/-- The names of the headers that an answer can have of its own. -/
def ownNames : List String := ["content-type", "x-app", "access-control-allow-methods"]

lemma name_of_mem_own {h : Header} (hh : h ∈ (s.own r).headers) : h.name ∈ ownNames := by
  rw [own] at hh
  split at hh
  · obtain rfl := List.mem_singleton.1 hh
    simp [ownNames, methodsHeader, Header.ofText]
  · rcases hasOwnNames_choose s r r h hh with hname | hname
    all_goals simp [ownNames, hname]

/-- The headers for other origins are put behind the own ones of an answer. -/
lemma cors_choose : (cors (s.choose r) (withId fresh r)).response =
    (s.own r).mapHeaders (· ++ [varyHeader, originHeader]) := by
  have hmethod : (withId fresh r).method = r.method := rfl
  rw [cors, own, hmethod]
  split
  · rfl
  · have horigin : ∀ k ∈ (s.choose r r).response.headers ++ [varyHeader],
        k.name ≠ originHeader.name := by
      intro k hk
      rcases List.mem_append.1 hk with hk | hk
      · rcases hasOwnNames_choose s r r k hk with hname | hname
        all_goals
          rw [hname]
          decide
      · obtain rfl := List.mem_singleton.1 hk
        decide
    rw [choose_withId, Reply.mapResponse, Response.mapHeaders, Response.mapHeaders,
      Header.set_eq_append horigin, List.append_assoc]
    rfl

/-- The headers that the layers put behind the own ones of an answer. -/
def layerHeaders (id : Octets) : List Header := [varyHeader, originHeader, ⟨idName, id⟩]

lemma name_of_mem_layerHeaders {id : Octets} {h : Header} (hh : h ∈ layerHeaders id) :
    h.name ∈ ["vary", "access-control-allow-origin", "x-request-id"] := by
  simp only [layerHeaders, List.mem_cons, List.not_mem_nil, or_false] at hh
  rcases hh with rfl | rfl | rfl
  · decide
  · decide
  · simp [idName]

lemma response_stack : (stack fresh (s.choose r) r).response =
    (s.own r).mapHeaders (· ++ layerHeaders (requestId fresh r)) := by
  have hid : ∀ k ∈ (s.own r).headers ++ [varyHeader, originHeader], k.name ≠ idName := by
    intro k hk
    rcases List.mem_append.1 hk with hk | hk
    · exact ne_of_mem_of_not_mem (name_of_mem_own s r hk) (by decide)
    · simp only [List.mem_cons, List.not_mem_nil, or_false] at hk
      rcases hk with rfl | rfl
      all_goals decide
  rw [stack_apply, cors_choose, Response.mapHeaders, Response.mapHeaders,
    Header.offer_eq_append hid, List.append_assoc]
  rfl

lemma name_of_allow? {h : Header} (hh : allow? r = some h) : h.name = "allow" := by
  rw [allow?] at hh
  split at hh
  · cases hh
  · split at hh
    · cases hh
    · rw [← Option.some.inj hh]
      rfl

/-- The methods of the route and the length of the body are told, and `HEAD` gets no body. -/
lemma finish_eq {a : Response}
    (ha : ∀ k ∈ a.headers, k.name ≠ "allow" ∧ k.name ≠ "content-length") : finish r a =
      ⟨a.status, a.headers ++ ((allow? r).toList ++ [lengthHeader a.body]),
        if r.method = "HEAD" then "" else a.body⟩ := by
  rw [finish]
  -- both headers are offered under names that no header has so far
  cases hallow : allow? r with
  | none =>
      have hlength : (lengthHeader a.body).offer a.headers =
          a.headers ++ [lengthHeader a.body] :=
        Header.offer_eq_append fun k hk => (ha k hk).2
      simp only [hlength, Option.toList_none, List.nil_append]
  | some allow =>
      have hname := name_of_allow? r hallow
      have hnamed : allow.offer a.headers = a.headers ++ [allow] :=
        Header.offer_eq_append fun k hk => hname ▸ (ha k hk).1
      have hlength : (lengthHeader a.body).offer (a.headers ++ [allow]) =
          a.headers ++ [allow] ++ [lengthHeader a.body] := by
        refine Header.offer_eq_append fun k hk => ?_
        rcases List.mem_append.1 hk with hk | hk
        · exact (ha k hk).2
        · obtain rfl := List.mem_singleton.1 hk
          rw [hname]
          exact (by decide : "allow" ≠ "content-length")
      simp only [hnamed, hlength, Option.toList_some, List.append_assoc]

/-- What a client gets: the own headers of the answer and those that are put behind them, and
the body if the method is not `HEAD`. -/
theorem answer_eq : s.answer fresh r =
    ⟨(s.own r).status,
      (s.own r).headers ++ (layerHeaders (requestId fresh r) ++
        ((allow? r).toList ++ [lengthHeader (s.own r).body])),
      if r.method = "HEAD" then "" else (s.own r).body⟩ := by
  have hnames : ∀ k ∈ ((s.own r).mapHeaders (· ++ layerHeaders (requestId fresh r))).headers,
      k.name ≠ "allow" ∧ k.name ≠ "content-length" := by
    intro k hk
    rcases List.mem_append.1 hk with hk | hk
    · have hname := name_of_mem_own s r hk
      exact ⟨ne_of_mem_of_not_mem hname (by decide), ne_of_mem_of_not_mem hname (by decide)⟩
    · have hname := name_of_mem_layerHeaders hk
      exact ⟨ne_of_mem_of_not_mem hname (by decide), ne_of_mem_of_not_mem hname (by decide)⟩
  rw [answer, reply, Reply.mapResponse, response_stack, finish_eq _ hnames,
    Response.mapHeaders, List.append_assoc]

/-! ### The headers of the answer -/

lemma valuesOf_answer (name : String) : Header.valuesOf name (s.answer fresh r).headers =
    Header.valuesOf name (s.own r).headers ++
      (Header.valuesOf name (layerHeaders (requestId fresh r)) ++
        (Header.valuesOf name (allow? r).toList ++
          Header.valuesOf name [lengthHeader (s.own r).body])) := by
  rw [answer_eq, Header.valuesOf_append, Header.valuesOf_append, Header.valuesOf_append]

lemma valuesOf_own_of_not_mem {name : String} (hname : name ∉ ownNames) :
    Header.valuesOf name (s.own r).headers = [] :=
  Header.valuesOf_eq_nil fun _ hh => ne_of_mem_of_not_mem (name_of_mem_own s r hh) hname

lemma valuesOf_layerHeaders_of_not_mem {name : String} (id : Octets)
    (hname : name ∉ ["vary", "access-control-allow-origin", "x-request-id"]) :
    Header.valuesOf name (layerHeaders id) = [] :=
  Header.valuesOf_eq_nil fun _ hh => ne_of_mem_of_not_mem (name_of_mem_layerHeaders hh) hname

lemma valuesOf_allow?_of_ne {name : String} (hname : name ≠ "allow") :
    Header.valuesOf name (allow? r).toList = [] := by
  refine Header.valuesOf_eq_nil fun h hh => ?_
  rw [name_of_allow? r (Option.mem_toList.1 hh)]
  exact hname.symm

lemma valuesOf_lengthHeader_of_ne {name : String} (hname : name ≠ "content-length")
    (body : String) : Header.valuesOf name [lengthHeader body] = [] := by
  refine Header.valuesOf_eq_nil fun h hh => ?_
  obtain rfl := List.mem_singleton.1 hh
  exact hname.symm

/-- The own headers of an answer stay as they are. -/
lemma valuesOf_answer_own {name : String} (hname : name ∈ ownNames) :
    Header.valuesOf name (s.answer fresh r).headers =
      Header.valuesOf name (s.own r).headers := by
  have hadded : name ∉ ["vary", "access-control-allow-origin", "x-request-id"] ∧
      name ≠ "allow" ∧ name ≠ "content-length" := by
    revert name
    decide
  obtain ⟨hlayer, hallow, hlength⟩ := hadded
  rw [valuesOf_answer, valuesOf_layerHeaders_of_not_mem _ hlayer,
    valuesOf_allow?_of_ne r hallow, valuesOf_lengthHeader_of_ne hlength, List.append_nil,
    List.append_nil, List.append_nil]

/-- The headers of the layers are in every answer, and nothing is beside them. -/
lemma valuesOf_answer_layer {name : String}
    (hname : name ∈ ["vary", "access-control-allow-origin", "x-request-id"]) :
    Header.valuesOf name (s.answer fresh r).headers =
      Header.valuesOf name (layerHeaders (requestId fresh r)) := by
  have hother : name ∉ ownNames ∧ name ≠ "allow" ∧ name ≠ "content-length" := by
    revert name
    decide
  obtain ⟨hown, hallow, hlength⟩ := hother
  rw [valuesOf_answer, valuesOf_own_of_not_mem s r hown, valuesOf_allow?_of_ne r hallow,
    valuesOf_lengthHeader_of_ne hlength, List.nil_append, List.append_nil, List.append_nil]

lemma valuesOf_answer_allow : Header.valuesOf "allow" (s.answer fresh r).headers =
    (allow? r).toList.map (·.value) := by
  rw [valuesOf_answer, valuesOf_own_of_not_mem s r (by decide),
    valuesOf_layerHeaders_of_not_mem _ (by decide), valuesOf_lengthHeader_of_ne (by decide),
    List.nil_append, List.nil_append, List.append_nil, Header.valuesOf, List.filter_eq_self.2]
  exact fun h hh => decide_eq_true (name_of_allow? r (Option.mem_toList.1 hh))

/-- The length is the one that the body has before `HEAD` loses it. -/
lemma valuesOf_answer_length : Header.valuesOf "content-length" (s.answer fresh r).headers =
    [(lengthHeader (s.own r).body).value] := by
  rw [valuesOf_answer, valuesOf_own_of_not_mem s r (by decide),
    valuesOf_layerHeaders_of_not_mem _ (by decide), valuesOf_allow?_of_ne r (by decide)]
  rfl

/-- An answer has the identifier of its request, and no other one. -/
lemma valuesOf_answer_id : Header.valuesOf "x-request-id" (s.answer fresh r).headers =
    [requestId fresh r] := by
  rw [valuesOf_answer_layer s fresh r (by decide)]
  rfl

/-! ### The log -/

theorem log_eq : s.log fresh r =
    .request r.target.path.toStringLossy (shownId (some (requestId fresh r))) ::
      if r.method = "OPTIONS" then [] else (s.choose r r).log := by
  have hmethod : (withId fresh r).method = r.method := rfl
  rw [log, reply, Reply.mapResponse, stack_apply, cors, hmethod]
  split
  · rfl
  · rw [choose_withId]
    rfl

end Service

end ResultPages
