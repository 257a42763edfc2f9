/-
What an answer depends on.

Of all that a client sends, the service looks at the method, at the path and the query of the
target, and at the first identifier.  Two requests that agree in these get the same answer, down
to the last header, and whatever else they hold: a scheme, an authority and a fragment, other
headers and other identifiers in any order, a body (`answer_eq_of_agree`).  On the page of a
flow not even the query matters, but for the outcome that it asks for.
-/
import ResultPages.Proofs.Service.PageAnswer

namespace ResultPages

namespace Request

/-- The first value that was sent under a name, in whatever letters the name was written. -/
def firstValue? (name : String) (headers : List (String × Octets)) : Option Octets :=
  (headers.find? (·.1.toLower = name)).map (·.2)

/-- The header of a request is the first one that was sent. -/
lemma header?_of_parse {method target : String} {headers : List (String × Octets)}
    {body : Octets} {r : Request} (h : parse method target headers body = .ok r)
    (name : String) : r.header? name = firstValue? name headers := by
  obtain ⟨-, -, hheaders, -⟩ := of_parse h
  rw [header?, hheaders, List.head?_map, List.head?_filter, firstValue?]

end Request

namespace Service

open Layer

variable (s : Service)

/-- The identifier of a request is the one that was sent, or else the fresh one. -/
lemma requestId_of_parse {method target : String} {headers : List (String × Octets)}
    {body : Octets} {r : Request} (h : Request.parse method target headers body = .ok r)
    (fresh : Ulid) : requestId fresh r =
      (Request.firstValue? "x-request-id" headers).getD (Octets.ofString fresh.toText) := by
  rw [requestId, Request.header?_of_parse h, idName]

section

variable {r r' : Request} (hmethod : r.method = r'.method) (hpath : r.target.path = r'.target.path)
include hmethod hpath

/-- The handler is chosen by the method and the path, and looks at the query besides. -/
lemma own_congr (hquery : r.target.query = r'.target.query) : s.own r = s.own r' := by
  have hreply : s.choose r r = s.choose r' r' := by
    rw [choose, choose, hpath, hmethod]
    cases Route.ofPath? r'.target.path with
    | none => rfl
    | some route =>
        by_cases hserved : r'.method ∈ route.methods
        · simp only [if_pos hserved, handler_congr s hmethod hquery]
        · simp only [if_neg hserved]
          rfl
  rw [own, own, hmethod, hreply]

/-- Behind the own part of an answer nothing looks at more than method, path and identifier. -/
lemma answer_congr {fresh fresh' : Ulid} (hown : s.own r = s.own r')
    (hid : requestId fresh r = requestId fresh' r') :
    s.answer fresh r = s.answer fresh' r' := by
  have hallow : allow? r = allow? r' := by rw [allow?, allow?, hmethod, hpath]
  rw [answer_eq, answer_eq, hown, hallow, hid, hmethod]

end

/-- What is sent with a page depends on the outcome that the query asks for. -/
lemma own_page_congr {r r' : Request} {f : Flow} (hget : r.method = "GET")
    (hget' : r'.method = "GET") (hroute : Route.ofPath? r.target.path = some (.page f))
    (hroute' : Route.ofPath? r'.target.path = some (.page f))
    (h : Outcome.ofStatus f (r.target.query.bind Query.status?) =
      Outcome.ofStatus f (r'.target.query.bind Query.status?)) : s.own r = s.own r' := by
  rw [own_of_served s hroute (Or.inl hget), own_of_served s hroute' (Or.inl hget')]
  change pageResponse f s.title r.target.query = pageResponse f s.title r'.target.query
  rw [pageResponse_eq_answer, pageResponse_eq_answer, h]

/-- Two requests that were sent with the same method, path, query and identifier have the same
answer.  If a page is asked for with `GET`, it is enough that both queries ask for the same
outcome. -/
theorem answer_eq_of_agree {method target target' : String}
    {headers headers' : List (String × Octets)} {body body' : Octets} {r r' : Request}
    (hr : Request.parse method target headers body = .ok r)
    (hr' : Request.parse method target' headers' body' = .ok r')
    (hpath : r.target.path = r'.target.path) {fresh fresh' : Ulid}
    (hsent : Request.firstValue? "x-request-id" headers =
      Request.firstValue? "x-request-id" headers')
    (hfresh : Request.firstValue? "x-request-id" headers = none → fresh = fresh') :
    (r.target.query = r'.target.query → s.answer fresh r = s.answer fresh' r') ∧
    ∀ f : Flow, method = "GET" → r.target.path = Octets.ofString f.route →
      Outcome.ofStatus f (r.target.query.bind Query.status?) =
        Outcome.ofStatus f (r'.target.query.bind Query.status?) →
      s.answer fresh r = s.answer fresh' r' := by
  obtain ⟨hmethod, -⟩ := Request.of_parse hr
  obtain ⟨hmethod', -⟩ := Request.of_parse hr'
  have hsame : r.method = r'.method := hmethod.trans hmethod'.symm
  -- both answers name the same identifier
  have hid : requestId fresh r = requestId fresh' r' := by
    rw [requestId_of_parse hr, requestId_of_parse hr', ← hsent]
    cases hvalue : Request.firstValue? "x-request-id" headers with
    | none => rw [hfresh hvalue]
    | some id => rw [Option.getD_some, Option.getD_some]
  constructor
  · intro hquery
    exact answer_congr s hsame hpath (own_congr s hsame hpath hquery) hid
  · intro f hget hroute houtcome
    have hpage : Route.ofPath? r.target.path = some (.page f) :=
      Route.ofPath?_eq_some_iff.2 hroute
    have hpage' : Route.ofPath? r'.target.path = some (.page f) := hpath ▸ hpage
    exact answer_congr s hsame hpath (own_page_congr s (hmethod.trans hget)
      (hmethod'.trans hget) hpage hpage' houtcome) hid

lemma parse_path : Request.parse "GET" "/confirmation-status?status=success"
    [("x-request-id", .ofString "abc-123"), ("Accept", .ofString "text/html")] [] =
      .ok ⟨"GET",
        ⟨[], [], .ofString "/confirmation-status", some (.ofString "status=success")⟩,
        [.ofText "x-request-id" "abc-123", .ofText "accept" "text/html"], []⟩ := by
  decide +kernel

lemma parse_address (query : String) (h : query = "status=success" ∨ query = "a&status=succ%65ss") :
    Request.parse "GET" ("http://example.com:8080/confirmation-status?" ++ query ++ "#top")
      [("Origin", .ofString "null"), ("X-Request-Id", .ofString "abc-123"),
        ("x-request-id", .ofString "other")] (.ofString "unread") =
      .ok ⟨"GET", ⟨.ofString "http", .ofString "example.com:8080",
          .ofString "/confirmation-status", some (.ofString query)⟩,
        [.ofText "origin" "null", .ofText "x-request-id" "abc-123",
          .ofText "x-request-id" "other"], .ofString "unread"⟩ := by
  rcases h with rfl | rfl <;> decide +kernel

/-- One question in three ways: as a path and a query, as a whole address with a fragment, and
with another query that asks for the same outcome. -/
theorem answer_eq_in_other_words : ∃ r r' r'' : Request,
    let s : Service := ⟨none, defaultTitle⟩
    Request.parse "GET" "/confirmation-status?status=success"
      [("x-request-id", .ofString "abc-123"), ("Accept", .ofString "text/html")] [] = .ok r ∧
    Request.parse "GET" "http://example.com:8080/confirmation-status?status=success#top"
      [("Origin", .ofString "null"), ("X-Request-Id", .ofString "abc-123"),
        ("x-request-id", .ofString "other")] (.ofString "unread") = .ok r' ∧
    Request.parse "GET" "http://example.com:8080/confirmation-status?a&status=succ%65ss#top"
      [("Origin", .ofString "null"), ("X-Request-Id", .ofString "abc-123"),
        ("x-request-id", .ofString "other")] (.ofString "unread") = .ok r'' ∧
    s.answer (.ofParts 0 0) r = s.answer (.ofParts 0 1) r' ∧
    s.answer (.ofParts 0 0) r = s.answer (.ofParts 0 1) r'' := by
  have hsent : Request.firstValue? "x-request-id"
      [("x-request-id", .ofString "abc-123"), ("Accept", .ofString "text/html")] =
      Request.firstValue? "x-request-id" [("Origin", .ofString "null"),
        ("X-Request-Id", .ofString "abc-123"), ("x-request-id", .ofString "other")] := by
    decide +kernel
  have hsome : Request.firstValue? "x-request-id"
      [("x-request-id", .ofString "abc-123"), ("Accept", .ofString "text/html")] ≠ none := by
    decide +kernel
  have hr' := parse_address "status=success" (Or.inl rfl)
  have hr'' := parse_address "a&status=succ%65ss" (Or.inr rfl)
  refine ⟨_, _, _, parse_path, hr', hr'', ?_, ?_⟩
  · exact (answer_eq_of_agree _ parse_path hr' rfl hsent (absurd · hsome)).1 rfl
  · exact (answer_eq_of_agree _ parse_path hr'' rfl hsent (absurd · hsome)).2
      .confirmation rfl rfl (by decide +kernel)

end Service

end ResultPages
