/-
What a handler answers, and what the client gets of it.

An answer to `GET` gets some more headers on its way to the client, and an answer to `HEAD`
loses its body as well; whatever headers the handler has written stay as they are
(`extends_of_get`, `extends_of_head`).  With `OPTIONS` no handler is asked at all.

The health document is the one that looks at the method itself, and two rules break there:

* the build is named to every method, if it can be, but the client does not get to see it in
  the answer to `OPTIONS` (`answer_health_iff`);
* `HEAD` is answered like `GET`, but here without the type and with another length
  (`answer_head_iff`).
-/
import Mathlib.Tactic.Common
import ResultPages.Proofs.Health.Commit
import ResultPages.Proofs.Service.Routes

namespace ResultPages

namespace Response

/-- An answer that says all that another one says: the same status, the same body, and every
header with the same values, perhaps beside headers with other names. -/
structure Extends (a own : Response) : Prop where
  status : a.status = own.status
  body : a.body = own.body
  headers : ∀ h ∈ own.headers,
    Header.valuesOf h.name a.headers = Header.valuesOf h.name own.headers

/-- The answer without its body. -/
def withoutBody (a : Response) : Response := { a with body := "" }

@[simp] lemma status_withoutBody (a : Response) : a.withoutBody.status = a.status := rfl

@[simp] lemma headers_withoutBody (a : Response) : a.withoutBody.headers = a.headers := rfl

@[simp] lemma body_withoutBody (a : Response) : a.withoutBody.body = "" := rfl

end Response

/-- The target that is the path of a route and nothing else. -/
def Route.target (route : Route) : Target := ⟨[], [], .ofString route.path, none⟩

/-- A request for a route that gives a method and nothing else. -/
def Request.plain (method : String) (route : Route) : Request := ⟨method, route.target, [], []⟩

namespace Service

open Layer

variable (s : Service) (fresh : Ulid) {r : Request} {route : Route}

/-! ### On their way to the client -/

/-- The headers of an answer are those that it has of its own, and some with other names. -/
lemma valuesOf_answer_of_mem {h : Header} (hh : h ∈ (s.own r).headers) :
    Header.valuesOf h.name (s.answer fresh r).headers =
      Header.valuesOf h.name (s.own r).headers :=
  valuesOf_answer_own s fresh r (name_of_mem_own s r hh)

/-- Nothing that a handler says to `GET` is lost. -/
theorem extends_of_get (hroute : Route.ofPath? r.target.path = some route)
    (hmethod : r.method = "GET") :
    (s.answer fresh r).Extends (s.handler route r).response := by
  rw [← own_of_served s hroute (Or.inl hmethod)]
  refine ⟨?_, ?_, fun h => valuesOf_answer_of_mem s fresh⟩
  · rw [answer_eq]
  · rw [answer_eq, hmethod]
    rfl

/-- Nothing but the body is lost of what a handler says to `HEAD`. -/
theorem extends_of_head (hroute : Route.ofPath? r.target.path = some route)
    (hmethod : r.method = "HEAD") :
    (s.answer fresh r).Extends (s.handler route r).response.withoutBody := by
  rw [← own_of_served s hroute (Or.inr hmethod)]
  refine ⟨?_, ?_, fun h => valuesOf_answer_of_mem s fresh⟩
  · rw [answer_eq, Response.status_withoutBody]
  · rw [answer_eq, hmethod, Response.body_withoutBody]
    rfl

/-! ### The build in the answers of the health document -/

lemma ofPath?_health {path : Octets} (h : path = Octets.ofString "/health") :
    Route.ofPath? path = some .health :=
  Route.ofPath?_eq_some_iff.2 h

lemma response_health (r : Request) :
    (s.handler .health r).response = healthResponse s.build r.method := by
  rw [handler, Handler.health, healthResponse]

lemma body_healthResponse (build : Health) (method : String) :
    (healthResponse build method).body = if method = "GET" then build.json else "" := by
  rw [healthResponse_eq]

/-- The other headers are the same for all methods. -/
lemma valuesOf_healthResponse_of_ne {name : String} (hname : name ≠ "content-type")
    (build : Health) (method : String) :
    Header.valuesOf name (healthResponse build method).headers =
      Header.valuesOf name (Header.ofText? "x-app" build.appId).toList := by
  have htype : Header.valuesOf name (if method = "GET" then
      [Header.ofText "content-type" "application/json"] else []) = [] := by
    refine Header.valuesOf_eq_nil fun h hh => ?_
    split at hh
    · obtain rfl := List.mem_singleton.1 hh
      exact hname.symm
    · cases hh
  rw [healthResponse_eq, Header.valuesOf_append, htype, List.nil_append]

/-- The type is told to `GET` alone. -/
lemma valuesOf_type_healthResponse (build : Health) (method : String) :
    Header.valuesOf "content-type" (healthResponse build method).headers =
      if method = "GET" then [.ofString "application/json"] else [] := by
  have happ : Header.valuesOf "content-type" (Header.ofText? "x-app" build.appId).toList = [] := by
    rw [Header.ofText?]
    split
    · rfl
    · rfl
  rw [healthResponse_eq, Header.valuesOf_append, happ, List.append_nil]
  split
  · rfl
  · rfl

/-- The build is named to every method, if it can be. -/
lemma valuesOf_app_healthResponse (build : Health) (method : String) :
    Header.valuesOf "x-app" (healthResponse build method).headers =
      if isValue (.ofString build.appId) then [.ofString build.appId] else [] := by
  rw [valuesOf_healthResponse_of_ne (by decide), Header.ofText?]
  split
  · rfl
  · rfl

lemma valuesOf_app_of_options (hmethod : r.method = "OPTIONS") :
    Header.valuesOf "x-app" (s.answer fresh r).headers = [] := by
  rw [valuesOf_answer_own s fresh r (by decide), own_of_options s hmethod]
  rfl

/-- To `OPTIONS` the health document says nothing but the name of the build, and that is left
out of the answer. -/
lemma extends_of_options_iff (hmethod : r.method = "OPTIONS") :
    (s.answer fresh r).Extends (healthResponse s.build r.method) ↔
      ¬ isValue (.ofString s.build.appId) := by
  have hget : r.method ≠ "GET" := by
    rw [hmethod]
    decide
  constructor
  · -- the name of the build is said, and not heard
    intro h hvalue
    have happ : Header.ofText "x-app" s.build.appId ∈
        (healthResponse s.build r.method).headers := by
      rw [healthResponse_eq, Header.ofText?, if_pos hvalue]
      exact List.mem_append_right _ (List.mem_singleton_self _)
    have hvalues := h.headers _ happ
    rw [Header.ofText, valuesOf_app_of_options s fresh hmethod, valuesOf_app_healthResponse,
      if_pos hvalue] at hvalues
    cases hvalues
  · intro hvalue
    have hdocument : healthResponse s.build r.method = .bare 200 [] := by
      rw [healthResponse_eq, if_neg hget, if_neg hget, Header.ofText?, if_neg hvalue]
      rfl
    rw [hdocument]
    refine ⟨?_, ?_, List.forall_mem_nil _⟩
    · rw [answer_eq, own_of_options s hmethod]
      rfl
    · rw [answer_eq, own_of_options s hmethod, hmethod]
      rfl

/-- The client gets all that the health document says to `GET` and `HEAD`. -/
lemma extends_health (hpath : r.target.path = Octets.ofString "/health")
    (hmethod : r.method = "GET" ∨ r.method = "HEAD") :
    (s.answer fresh r).Extends (healthResponse s.build r.method) := by
  have hroute := ofPath?_health hpath
  rw [← response_health]
  rcases hmethod with hget | hhead
  · exact extends_of_get s fresh hroute hget
  · have hbody : (s.handler .health r).response.withoutBody = (s.handler .health r).response := by
      rw [response_health, healthResponse_eq, hhead]
      rfl
    rw [← hbody]
    exact extends_of_head s fresh hroute hhead

/-- The client gets all that the health document says to a method which it has, exactly if that
is not `OPTIONS` or there is nothing to say to `OPTIONS`.  Status and body are those of the
document in any case.  The name of the build, which ends in the short form of the commit, is in
the document whenever it may stand in a header, and it may if there is no control character in
the commit; but it is told to `GET` and `HEAD` alone. -/
theorem answer_health_iff (hpath : r.target.path = Octets.ofString "/health")
    (hmethod : r.method ∈ ["GET", "HEAD", "OPTIONS"]) :
    ∃ short app, IsShortForm (s.commit?.getD "unknown") short ∧
      app = Octets.ofString ("status-pages/0.1.0+" ++ short) ∧
      ((s.answer fresh r).Extends (healthResponse s.build r.method) ↔
        r.method ≠ "OPTIONS" ∨ ¬ isValue app) ∧
      (s.answer fresh r).status = (healthResponse s.build r.method).status ∧
      (s.answer fresh r).body = (healthResponse s.build r.method).body ∧
      (r.method ≠ "GET" → (s.answer fresh r).body = "") ∧
      Header.valuesOf "x-app" (healthResponse s.build r.method).headers =
        (if isValue app then [app] else []) ∧
      Header.valuesOf "x-app" (s.answer fresh r).headers =
        (if r.method = "OPTIONS" then []
          else Header.valuesOf "x-app" (healthResponse s.build r.method).headers) ∧
      ((∀ hash ∈ s.commit?, ∀ c ∈ hash.toList, 0x20 ≤ c.toNat ∧ c.toNat ≠ 0x7F) →
        isValue app) := by
  have happ : s.build.appId = "status-pages/0.1.0+" ++ shortCommit (s.commit?.getD "unknown") :=
    appId_current s.commit?
  have hbody : r.method ≠ "GET" → (healthResponse s.build r.method).body = "" := by
    intro hget
    rw [body_healthResponse, if_neg hget]
  refine ⟨_, _, isShortForm_iff.2 rfl, rfl, ?_⟩
  rw [← happ]
  by_cases hoptions : r.method = "OPTIONS"
  · have hsame : (s.answer fresh r).status = (healthResponse s.build r.method).status ∧
        (s.answer fresh r).body = (healthResponse s.build r.method).body := by
      rw [answer_eq, own_of_options s hoptions, healthResponse_eq, hoptions]
      exact ⟨rfl, rfl⟩
    refine ⟨?_, hsame.1, hsame.2, fun h => hsame.2.trans (hbody h),
      valuesOf_app_healthResponse _ _, ?_, isValue_appId_of_commit⟩
    · rw [extends_of_options_iff s fresh hoptions, or_iff_right (not_not_intro hoptions)]
    · rw [if_pos hoptions]
      exact valuesOf_app_of_options s fresh hoptions
  · have hother : r.method = "GET" ∨ r.method = "HEAD" := by
      simpa [hoptions] using hmethod
    have hext : (s.answer fresh r).Extends (healthResponse s.build r.method) :=
      extends_health s fresh hpath hother
    refine ⟨iff_of_true hext (Or.inl hoptions), hext.status, hext.body,
      fun h => hext.body.trans (hbody h), valuesOf_app_healthResponse _ _, ?_,
      isValue_appId_of_commit⟩
    rw [if_neg hoptions, valuesOf_answer_own s fresh r (by decide),
      own_of_served s (ofPath?_health hpath) hother, response_health]

/-- A build of a known commit is named to `GET`, and to `OPTIONS` it is not. -/
theorem answer_health_options :
    let s : Service := ⟨some "0123456789abcdef", defaultTitle⟩
    (Request.plain "OPTIONS" .health).target.path = Octets.ofString "/health" ∧
    (Request.plain "OPTIONS" .health).method ∈ ["GET", "HEAD", "OPTIONS"] ∧
    Header.valuesOf "x-app" (healthResponse s.build "OPTIONS").headers =
      [Octets.ofString "status-pages/0.1.0+0123456"] ∧
    (s.answer (.ofParts 0 0) (Request.plain "OPTIONS" .health)).status = 200 ∧
    Header.valuesOf "x-app"
      (s.answer (.ofParts 0 0) (Request.plain "OPTIONS" .health)).headers = [] ∧
    Header.valuesOf "x-app"
      (s.answer (.ofParts 0 0) (Request.plain "GET" .health)).headers =
        [Octets.ofString "status-pages/0.1.0+0123456"] := by
  intro s
  have hshort : shortCommit (s.commit?.getD "unknown") = "0123456" := by decide +kernel
  have hname : "status-pages/0.1.0+" ++ "0123456" = "status-pages/0.1.0+0123456" := by decide
  have hvalue : isValue (.ofString "status-pages/0.1.0+0123456") := by
    have happ : s.build.appId = "status-pages/0.1.0+0123456" := by
      rw [build, appId_current, hshort, hname]
    rw [← happ]
    exact isValue_appId_of_hash
  have hpath : ∀ m, (Request.plain m .health).target.path = Octets.ofString "/health" :=
    fun _ => rfl
  obtain ⟨short, app, hform, rfl, -, hstatus, -, -, hdocument, happ, -⟩ :=
    answer_health_iff s (.ofParts 0 0) (hpath "OPTIONS") (by decide)
  obtain ⟨short', app', hform', rfl, -, -, -, -, hdocument', happ', -⟩ :=
    answer_health_iff s (.ofParts 0 0) (hpath "GET") (by decide)
  rw [isShortForm_iff, hshort] at hform hform'
  rw [← hform, hname, if_pos hvalue] at hdocument
  rw [← hform', hname, if_pos hvalue] at hdocument'
  refine ⟨rfl, by decide, hdocument, hstatus.trans ?_, happ, happ'.trans hdocument'⟩
  rw [healthResponse_eq]

/-- Not every answer of the health document reaches the client as it is, whatever the title, in a
build that is not from a known commit and can be named. -/
theorem not_forall_extends_health : ¬ ∀ (title : String) (fresh : Ulid) (r : Request),
    r.target.path = Octets.ofString "/health" → r.method ∈ ["GET", "HEAD", "OPTIONS"] →
      ((⟨none, title⟩ : Service).answer fresh r).Extends
        (healthResponse (.current none) r.method) := by
  intro h
  have hvalue : isValue (.ofString (Health.current none).appId) :=
    isValue_appId_of_commit fun _ hnone => nomatch hnone
  have hext := h defaultTitle (.ofParts 0 0) (Request.plain "OPTIONS" .health) rfl (by decide)
  exact (extends_of_options_iff ⟨none, defaultTitle⟩ (.ofParts 0 0) rfl).1 hext hvalue

/-! ### `HEAD` against `GET` -/

/-- No other handler than the one of the health document tells `HEAD` from `GET`. -/
lemma own_head_eq {get head : Request} (hget : get.method = "GET") (hhead : head.method = "HEAD")
    (htarget : head.target = get.target) (hpath : get.target.path ≠ Octets.ofString "/health") :
    s.own head = s.own get := by
  cases hroute : Route.ofPath? get.target.path with
  | none =>
      rw [own_of_none s hroute (by rw [hget]; decide),
        own_of_none s (htarget ▸ hroute) (by rw [hhead]; decide)]
  | some route =>
      rw [own_of_served s hroute (Or.inl hget), own_of_served s (htarget ▸ hroute) (Or.inr hhead)]
      cases route with
      | page f => rw [handler, Handler.page, Handler.page, htarget]
      | health => exact absurd (Route.ofPath?_eq_some_iff.1 hroute) hpath
      | description => rfl

/-- What the client gets to see of the health document with `GET` and with `HEAD`: all headers
are the same but the type and the length of the document. -/
structure IsHealthPair (build : Health) (get head : Response) : Prop where
  others : ∀ name, name ≠ "content-type" → name ≠ "content-length" →
    Header.valuesOf name head.headers = Header.valuesOf name get.headers
  get_type : Header.valuesOf "content-type" get.headers = [Octets.ofString "application/json"]
  head_type : Header.valuesOf "content-type" head.headers = []
  get_length : Header.valuesOf "content-length" get.headers =
    [Octets.ofString (Nat.repr build.json.utf8ByteSize)]
  head_length : Header.valuesOf "content-length" head.headers = [Octets.ofString "0"]

lemma IsHealthPair.not_same {build : Health} {get head : Response}
    (h : IsHealthPair build get head) :
    ¬ ∀ name, Header.valuesOf name head.headers = Header.valuesOf name get.headers := by
  intro hsame
  have htype := hsame "content-type"
  rw [h.get_type, h.head_type] at htype
  cases htype

section

variable (fresh' : Ulid) {get head : Request} (hget : get.method = "GET")
  (hhead : head.method = "HEAD") (htarget : head.target = get.target)
  (hid : requestId fresh' head = requestId fresh get)
include hget hhead htarget

/-- A method that every route serves is never refused. -/
lemma allow?_eq_of_head : allow? head = allow? get := by
  cases hroute : Route.ofPath? get.target.path with
  | none => rw [allow?, allow?, htarget, hroute]
  | some route =>
      rw [allow?_of_served hroute (Or.inl hget), allow?_of_served (htarget ▸ hroute) (Or.inr hhead)]

include hid

lemma answer_head_eq (hpath : get.target.path ≠ Octets.ofString "/health") :
    s.answer fresh' head = (s.answer fresh get).withoutBody := by
  rw [answer_eq, answer_eq, own_head_eq s hget hhead htarget hpath, hid,
    allow?_eq_of_head hget hhead htarget, if_pos hhead]
  rfl

lemma isHealthPair_answer (hpath : get.target.path = Octets.ofString "/health") :
    IsHealthPair s.build (s.answer fresh get) (s.answer fresh' head) := by
  have hown : s.own get = healthResponse s.build "GET" := by
    rw [own_of_served s (ofPath?_health hpath) (Or.inl hget), response_health, hget]
  have hown' : s.own head = healthResponse s.build "HEAD" := by
    rw [own_of_served s (ofPath?_health (htarget ▸ hpath)) (Or.inr hhead), response_health,
      hhead]
  constructor
  · intro name htype hlength
    rw [valuesOf_answer, valuesOf_answer, hown, hown', hid, allow?_eq_of_head hget hhead htarget,
      valuesOf_lengthHeader_of_ne hlength, valuesOf_lengthHeader_of_ne hlength,
      valuesOf_healthResponse_of_ne htype, valuesOf_healthResponse_of_ne htype]
  · rw [valuesOf_answer_own s fresh get (by decide), hown, valuesOf_type_healthResponse]
    rfl
  · rw [valuesOf_answer_own s fresh' head (by decide), hown', valuesOf_type_healthResponse]
    rfl
  · rw [valuesOf_answer_length, hown, body_healthResponse, if_pos rfl]
    rfl
  · have hempty : Nat.repr "".utf8ByteSize = "0" := by decide
    rw [valuesOf_answer_length, hown', body_healthResponse, if_neg (by decide), ← hempty]
    rfl

end

/-- `HEAD` is answered like `GET`, with the same headers and without a body, exactly if the
request is not for the health document.  There the type of the document is missing and the
length is that of no document at all. -/
theorem answer_head_iff (s : Service) (fresh fresh' : Ulid) (target : Target)
    {headers : List Header} (hsent : Header.valuesOf "x-request-id" headers ≠ [])
    (body body' : Octets) :
    let get := s.answer fresh ⟨"GET", target, headers, body⟩
    let head := s.answer fresh' ⟨"HEAD", target, headers, body'⟩
    head.status = get.status ∧ head.body = "" ∧
    ((∀ name, Header.valuesOf name head.headers = Header.valuesOf name get.headers) ↔
      target.path ≠ Octets.ofString "/health") ∧
    (target.path ≠ Octets.ofString "/health" → head = get.withoutBody) ∧
    (target.path = Octets.ofString "/health" → IsHealthPair s.build get head) := by
  intro get head
  obtain ⟨id, ids, hids⟩ := List.exists_cons_of_ne_nil hsent
  have hid : requestId fresh' ⟨"HEAD", target, headers, body'⟩ =
      requestId fresh ⟨"GET", target, headers, body⟩ := by
    simp only [requestId, Request.header?, idName, hids, List.head?_cons, Option.getD_some]
  by_cases hpath : target.path = Octets.ofString "/health"
  · have hpair : IsHealthPair s.build get head :=
      isHealthPair_answer s fresh fresh' rfl rfl rfl hid hpath
    have hget : get.Extends _ := extends_health s fresh hpath (Or.inl rfl)
    have hhead : head.Extends _ := extends_health s fresh' hpath (Or.inr rfl)
    rw [healthResponse_eq] at hget hhead
    exact ⟨hhead.status.trans hget.status.symm, hhead.body,
      iff_of_false hpair.not_same (not_not_intro hpath), absurd hpath, fun _ => hpair⟩
  · have heq : head = get.withoutBody :=
      answer_head_eq s fresh fresh' rfl rfl rfl hid hpath
    refine ⟨?_, ?_, iff_of_true ?_ hpath, fun _ => heq, fun h => absurd h hpath⟩
    · rw [heq, Response.status_withoutBody]
    · rw [heq, Response.body_withoutBody]
    · intro name
      rw [heq, Response.headers_withoutBody]

lemma valuesOf_identifier :
    Header.valuesOf "x-request-id" [.ofText "x-request-id" "abc-123"] ≠ [] := by
  decide

/-- The type of the health document is told to `GET` and not to `HEAD`. -/
theorem answer_head_health :
    let s : Service := ⟨none, defaultTitle⟩
    Header.valuesOf "x-request-id" [.ofText "x-request-id" "abc-123"] ≠ [] ∧
    Header.valuesOf "content-type" (s.answer (.ofParts 0 0)
      ⟨"GET", Route.health.target, [.ofText "x-request-id" "abc-123"], []⟩).headers =
        [Octets.ofString "application/json"] ∧
    Header.valuesOf "content-type" (s.answer (.ofParts 0 1)
      ⟨"HEAD", Route.health.target, [.ofText "x-request-id" "abc-123"], []⟩).headers = [] := by
  intro s
  obtain ⟨-, -, -, -, hpair⟩ := answer_head_iff s (.ofParts 0 0) (.ofParts 0 1)
    Route.health.target valuesOf_identifier [] []
  exact ⟨valuesOf_identifier, (hpair rfl).get_type, (hpair rfl).head_type⟩

/-- Not every answer to `HEAD` is the one to `GET` without the body. -/
theorem not_forall_head_like_get : ¬ ∀ (title : String) (fresh fresh' : Ulid) (target : Target)
    (headers : List Header) (body body' : Octets),
    Header.valuesOf "x-request-id" headers ≠ [] →
      let get := (⟨none, title⟩ : Service).answer fresh ⟨"GET", target, headers, body⟩
      let head := (⟨none, title⟩ : Service).answer fresh' ⟨"HEAD", target, headers, body'⟩
      head.status = get.status ∧ head.body = "" ∧
        ∀ name, Header.valuesOf name head.headers = Header.valuesOf name get.headers := by
  intro h
  obtain ⟨-, -, hsame⟩ := h defaultTitle (.ofParts 0 0) (.ofParts 0 0) Route.health.target
    [.ofText "x-request-id" "abc-123"] [] [] valuesOf_identifier
  let request (method : String) : Request :=
    ⟨method, Route.health.target, [.ofText "x-request-id" "abc-123"], []⟩
  have hget : (request "GET").method = "GET" := rfl
  have hhead : (request "HEAD").method = "HEAD" := rfl
  have hpair := isHealthPair_answer ⟨none, defaultTitle⟩ (.ofParts 0 0) (.ofParts 0 0) hget hhead
    rfl rfl rfl
  exact hpair.not_same hsame

end Service

end ResultPages
