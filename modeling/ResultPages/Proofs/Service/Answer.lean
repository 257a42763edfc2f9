/-
The answers of the service, taken together.

Whatever is asked for with whatever method, there is an answer.  `answer_total` goes through
all requests: the method `OPTIONS` first, then the four paths at which something is served
(`Serves`), then all other paths.  It also says what all answers have in common (`IsMarked`), and
what the parts of a request come from: its path and query from the text in front of the
fragment, its identifier from the first header with that name in any spelling of the letters.
-/
import ResultPages.Proofs.Http.Fragment
import ResultPages.Proofs.Service.Routes

namespace ResultPages

namespace Service

variable (s : Service) (fresh : Ulid) (r : Request)

/-! ### Headers -/

/-- What the headers of all answers say. -/
structure IsMarked (fresh : Ulid) (r : Request) (a : Response) : Prop where
  /-- The identifier is the first one that was sent, as it was sent. -/
  sent : ∀ id ids, Header.valuesOf "x-request-id" r.headers = id :: ids →
    Header.valuesOf "x-request-id" a.headers = [id]
  /-- If none was sent it is a fresh one. -/
  generated : Header.valuesOf "x-request-id" r.headers = [] →
    Header.valuesOf "x-request-id" a.headers = [Octets.ofString fresh.toText] ∧
      fresh.toText.length = 26
  origin : Header.valuesOf "access-control-allow-origin" a.headers = [Octets.ofString "*"]
  vary : Header.valuesOf "vary" a.headers = [Octets.ofString
    "origin, access-control-request-method, access-control-request-headers"]

lemma isMarked_answer : IsMarked fresh r (s.answer fresh r) := by
  have hid := valuesOf_answer_id s fresh r
  constructor
  · intro id ids hsent
    rw [hid, Layer.requestId, Request.header?, Layer.idName, hsent]
    rfl
  · intro hsent
    rw [hid, Layer.requestId, Request.header?, Layer.idName, hsent]
    exact ⟨rfl, fresh.length_toText⟩
  · rw [valuesOf_answer_layer s fresh r (by decide)]
    rfl
  · rw [valuesOf_answer_layer s fresh r (by decide)]
    rfl

/-! ### What is served at a path -/

/-- `Serves s query path body` says that at a path a body is served for a query: the page of a
flow, the health document or the description of the service. -/
inductive Serves (s : Service) (query : Option Octets) : String → String → Prop where
  | confirmation : Serves s query "/confirmation-status"
      (pageResponse .confirmation s.title query).body
  | passwordReset : Serves s query "/password-reset-status"
      (pageResponse .passwordReset s.title query).body
  | health : Serves s query "/health" (healthResponse s.build "GET").body
  | description : Serves s query "/openapi.json" descriptionResponse.body

variable {s r}

/-- What is served at a path is what the handler of a route writes for `GET`. -/
lemma Serves.exists_route {path body : String} (h : Serves s r.target.query path body) :
    ∃ route : Route, path = route.path ∧ (route = .health ↔ path = "/health") ∧
      (r.method = "GET" → (s.handler route r).response.body = body) := by
  cases h with
  | confirmation => exact ⟨.page .confirmation, rfl, by decide, fun _ => rfl⟩
  | passwordReset => exact ⟨.page .passwordReset, rfl, by decide, fun _ => rfl⟩
  | health =>
      refine ⟨.health, rfl, by decide, fun hget => ?_⟩
      rw [handler, Handler.health, hget, healthResponse]
  | description => exact ⟨.description, rfl, by decide, fun _ => rfl⟩

/-- Something is served at the path of every route. -/
lemma exists_serves (query : Option Octets) (route : Route) :
    ∃ body, Serves s query route.path body := by
  cases route with
  | page f =>
      cases f with
      | confirmation => exact ⟨_, .confirmation⟩
      | passwordReset => exact ⟨_, .passwordReset⟩
  | health => exact ⟨_, .health⟩
  | description => exact ⟨_, .description⟩

/-- No handler of a route fails. -/
lemma status_handler (route : Route) : (s.handler route r).response.status = 200 := by
  cases route with
  | page f => rfl
  | health => rw [handler, Handler.health, ← healthResponse, healthResponse_eq]
  | description => rw [handler, Handler.description, descriptionResponse]

/-- What a client gets at a path at which a body is served, with another method than
`OPTIONS`. -/
structure IsReplyOf (r : Request) (path body : String) (a : Response) : Prop where
  get : r.method = "GET" → a.status = 200 ∧ a.body = body
  head : r.method = "HEAD" → a.status = 200 ∧ a.body = ""
  /-- Any other method is refused, and the methods that there are at the path are named. -/
  refused : r.method ≠ "GET" → r.method ≠ "HEAD" → a.status = 405 ∧ a.body = "" ∧
    ∃ value, Header.valuesOf "allow" a.headers = [value] ∧
      ∀ m : String, Octets.ofString m ∈ pieces ','.toUInt8 value ↔
        m = "GET" ∨ m = "HEAD" ∨ m = "OPTIONS" ∧ path = "/health"

lemma isReplyOf_answer {path body : String} (h : Serves s r.target.query path body)
    (hpath : r.target.path = .ofString path) (hoptions : r.method ≠ "OPTIONS") :
    IsReplyOf r path body (s.answer fresh r) := by
  obtain ⟨route, rfl, hhealth, hbody⟩ := h.exists_route
  have hroute := Route.ofPath?_eq_some_iff.2 hpath
  constructor
  · intro hget
    rw [answer_eq, own_of_served s hroute (Or.inl hget)]
    refine ⟨status_handler route, (if_neg ?_).trans (hbody hget)⟩
    rw [hget]
    decide
  · intro hhead
    rw [answer_eq, own_of_served s hroute (Or.inr hhead)]
    exact ⟨status_handler route, if_pos hhead⟩
  · intro hget hhead
    obtain ⟨hown, hallow⟩ := own_of_refused s hroute hoptions hget hhead
    refine ⟨?_, ?_, route.allow.value, ?_, fun m => ?_⟩
    · rw [answer_eq, hown, Response.bare]
    · rw [answer_eq, hown]
      exact if_neg hhead
    · rw [valuesOf_answer_allow, hallow]
      rfl
    · rw [Route.mem_pieces_allow_iff, Route.mem_methods_iff, hhealth]

/-! ### Every request -/

variable (s r)

lemma status_own_lt : (s.own r).status < 500 := by
  rw [own]
  split
  · rw [Response.bare]
    decide
  · obtain hchoose | hchoose | ⟨route, hchoose⟩ := choose_cases s r
    · rw [hchoose, Handler.notFound, Response.bare]
      decide
    · rw [hchoose, Handler.notAllowed, Response.bare]
      decide
    · rw [hchoose, status_handler]
      decide

/-- Every request has an answer, told by its method and its path, for every build and title:
`OPTIONS` is answered for every path, what is served at four paths is sent to `GET`, `HEAD` gets
no body and all other methods are refused there, and other paths are not found.  No answer says
that the service failed, and every answer has the identifier of its request and the two headers
for other origins, each of them once. -/
theorem answer_total :
    (r.method = "OPTIONS" →
      (s.answer fresh r).status = 200 ∧ (s.answer fresh r).body = "") ∧
    (r.method ≠ "OPTIONS" → ∀ path body, Serves s r.target.query path body →
      r.target.path = Octets.ofString path → IsReplyOf r path body (s.answer fresh r)) ∧
    (r.method ≠ "OPTIONS" → (∀ path body, Serves s r.target.query path body →
      r.target.path ≠ Octets.ofString path) → (s.answer fresh r).status = 404) ∧
    (s.answer fresh r).status < 500 ∧
    IsMarked fresh r (s.answer fresh r) ∧
    ∀ (method target : String) (headers : List (String × Octets)) (body : Octets),
      Request.parse method target headers body = .ok r →
        r.method = method ∧
        Target.parse (Target.dropFragment (Octets.ofString target)) = .ok r.target ∧
        Header.valuesOf "x-request-id" r.headers =
          (headers.filter (·.1.toLower = "x-request-id")).map (·.2) := by
  refine ⟨?_, ?_, ?_, ?_, isMarked_answer s fresh r, ?_⟩
  · intro hoptions
    rw [answer_eq, own_of_options s hoptions, hoptions]
    exact ⟨rfl, rfl⟩
  · intro hoptions path body hserves hpath
    exact isReplyOf_answer fresh hserves hpath hoptions
  · intro hoptions hpath
    have hnone : Route.ofPath? r.target.path = none := by
      refine Route.ofPath?_eq_none_iff.2 fun route => ?_
      obtain ⟨body, hserves⟩ := exists_serves (s := s) r.target.query route
      exact hpath _ body hserves
    rw [answer_eq, own_of_none s hnone hoptions, Response.bare]
  · rw [answer_eq]
    exact status_own_lt s r
  · intro method target headers body hparse
    obtain ⟨hmethod, htarget, hheaders, -⟩ := Request.of_parse hparse
    exact ⟨hmethod, Target.parse_dropFragment htarget, hheaders _⟩

end Service

end ResultPages
