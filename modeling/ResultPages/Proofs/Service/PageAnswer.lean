/-
The answer with a result page, told by the octets of the query.

A page is chosen by the query alone, and the query decides by the first piece whose key spells
`status`.  Nothing that can stand in a query keeps the page from being served; a query that
asks for no outcome gets the page for failure.
-/
import Mathlib.Tactic.Common
import ResultPages.Proofs.Page.Document
import ResultPages.Proofs.Query.Octets
import ResultPages.Proofs.Service.Routes

namespace ResultPages

/-- The answer with the page that shows an outcome. -/
def Outcome.answer {f : Flow} (title : String) (o : Outcome f) : Response :=
  ⟨200, [.ofText "content-type" "text/html; charset=utf-8"],
    (Page.mk f title o.message).html⟩

/-- The answers with the pages of two outcomes differ. -/
lemma Outcome.answer_injective {f : Flow} (title : String) :
    Function.Injective (Outcome.answer (f := f) title) := by
  intro o o' h
  have hpage := Page.html_injective (congrArg Response.body h)
  exact Outcome.message_injective (Page.mk.inj hpage).2.2

lemma pageResponse_eq_answer (f : Flow) (title : String) (query : Option Octets) :
    pageResponse f title query =
      (Outcome.ofStatus f (query.bind Query.status?)).answer title := rfl

/-- Which page is served for a query, for every flow, title and query: the page of an outcome
other than failure exactly if the query asks for that outcome, and in all other cases the page
for failure.  Here octets are compared; reading them as text makes no difference. -/
theorem pageResponse_by_octets (f : Flow) (title : String) (query : Option Octets) :
    (∀ o : Outcome f, o ≠ .failure f →
      (pageResponse f title query = o.answer title ↔ Query.AsksFor query o)) ∧
    ((∀ o : Outcome f, o ≠ .failure f → ¬ Query.AsksFor query o) →
      pageResponse f title query = (Outcome.failure f).answer title) ∧
    (∃ o : Outcome f, pageResponse f title query = o.answer title) ∧
    ∀ part : Octets,
      (Query.readPart part = Query.statusKey ↔
        Query.Spells part (.ofString Query.statusKey)) ∧
      ∀ o : Outcome f,
        Query.readPart part = o.token ↔ Query.Spells part (.ofString o.token) := by
  rw [pageResponse_eq_answer]
  refine ⟨?_, ?_, ⟨_, rfl⟩, fun part =>
    ⟨Query.readPart_eq_statusKey_iff, fun o => Query.readPart_eq_token_iff o⟩⟩
  · intro o ho
    rw [(Outcome.answer_injective title).eq_iff, Query.ofStatus_bind_status?_eq_iff ho]
  · intro hnone
    by_cases ho : Outcome.ofStatus f (query.bind Query.status?) = .failure f
    · rw [ho]
    · exact absurd ((Query.ofStatus_bind_status?_eq_iff ho query).1 rfl) (hnone _ ho)

/-! ### Requests for a page -/

/-- A page that is asked for with `GET` is sent. -/
theorem Service.answer_get_page (s : Service) (fresh : Ulid) {r : Request} {f : Flow}
    (hmethod : r.method = "GET") (hroute : Route.ofPath? r.target.path = some (.page f)) :
    (s.answer fresh r).status = 200 ∧ (s.answer fresh r).body =
      (Page.ofStatus f s.title (r.target.query.bind Query.status?)).html := by
  rw [answer_eq, own_of_served s hroute (Or.inl hmethod), hmethod]
  exact ⟨rfl, rfl⟩

end ResultPages
