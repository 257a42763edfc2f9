/-
What is logged about a request.

The record of the request itself comes first, and it is no event.  Behind it there is at most one
event (`log_eq_cons_events`), and that comes from the handler of a route (`mem_events_iff`): a page
reports a status that its flow does not know, and the health document reports a build that cannot
be named in a header.
-/
import Mathlib.Tactic.Common
import ResultPages.Proofs.Service.Routes

namespace ResultPages

namespace LogRecord

/-- The name under which a record is opened, if it is opened for the time of a request. -/
def spanName? : LogRecord → Option String
  | request .. => some requestName
  | unrecognizedStatus .. => none
  | buildSkipped _ => none

/-- Whether a record is an event; the record of a request is none. -/
def isEvent (e : LogRecord) : Bool := e.spanName?.isNone

end LogRecord

namespace Service

variable {s : Service} {fresh : Ulid} {r : Request} {e : LogRecord}

/-! ### Handlers -/

lemma mem_statusLog_iff {f : Flow} {status : Option String} : e ∈ statusLog f status ↔
    ∃ t, status = some t ∧ Outcome.ofToken? f t = none ∧ e = .unrecognizedStatus f t := by
  cases status with
  | none =>
      refine iff_of_false List.not_mem_nil ?_
      rintro ⟨_, hnone, _⟩
      cases hnone
  | some t =>
      have hunknown : Outcome.Unrecognized f (some t) ↔ Outcome.ofToken? f t = none := by
        constructor
        · rintro ⟨_, hsame, htoken⟩
          rwa [Option.some.inj hsame]
        · intro htoken
          exact ⟨t, rfl, htoken⟩
      simp only [statusLog, hunknown, Option.some.injEq, exists_eq_left']
      split
      · next htoken => rw [List.mem_singleton, and_iff_right htoken]
      · next htoken => exact iff_of_false List.not_mem_nil fun h => htoken h.1

lemma length_statusLog_le (f : Flow) (status : Option String) :
    (statusLog f status).length ≤ 1 := by
  cases status with
  | none => exact Nat.zero_le 1
  | some t =>
      simp only [statusLog]
      split
      · exact Nat.le_refl 1
      · exact Nat.zero_le 1

/-- The record of a build that cannot be named in a header. -/
def buildRecord : LogRecord := .buildSkipped RequestError.invalidHeaderValue.message

lemma mem_log_health_iff {build : Health} {method : String} :
    e ∈ (healthReply build method).log ↔
      ¬ isValue (.ofString build.appId) ∧ e = buildRecord := by
  rw [healthReply, Header.ofText?]
  by_cases hvalue : isValue (.ofString build.appId)
  · rw [if_pos hvalue]
    exact iff_of_false List.not_mem_nil fun h => h.1 hvalue
  · rw [if_neg hvalue, and_iff_right hvalue]
    exact List.mem_singleton

/-- A handler logs at most one record, and that is an event. -/
lemma log_choose (s : Service) (r : Request) :
    (s.choose r r).log.length ≤ 1 ∧ ∀ e ∈ (s.choose r r).log, e.isEvent := by
  have hempty : ([] : List LogRecord).length ≤ 1 ∧ ∀ e ∈ ([] : List LogRecord), e.isEvent :=
    ⟨Nat.zero_le 1, List.forall_mem_nil _⟩
  have hone : ∀ e : LogRecord, e.isEvent → [e].length ≤ 1 ∧ ∀ k ∈ [e], k.isEvent :=
    fun e he => ⟨Nat.le_refl 1, List.forall_mem_singleton.2 he⟩
  obtain hchoose | hchoose | ⟨route, hchoose⟩ := choose_cases s r
  · rw [hchoose, Handler.notFound]
    exact hempty
  · rw [hchoose, Handler.notAllowed]
    exact hempty
  · rw [hchoose]
    cases route with
    | page f =>
        refine ⟨length_statusLog_le f _, fun e he => ?_⟩
        rw [handler, Handler.page, mem_statusLog_iff] at he
        obtain ⟨t, -, -, rfl⟩ := he
        rfl
    | health =>
        rw [handler, Handler.health, healthReply]
        cases Header.ofText? "x-app" s.build.appId with
        | some app => exact hempty
        | none => exact hone _ rfl
    | description =>
        rw [handler, Handler.description]
        exact hempty

/-! ### Requests -/

/-- The events that are logged about a request. -/
def events (s : Service) (fresh : Ulid) (r : Request) : List LogRecord :=
  (s.log fresh r).filter LogRecord.isEvent

lemma events_eq (s : Service) (fresh : Ulid) (r : Request) :
    s.events fresh r = if r.method = "OPTIONS" then [] else (s.choose r r).log := by
  rw [events, log_eq, List.filter_cons_of_neg Bool.false_ne_true]
  split
  · rfl
  · exact List.filter_eq_self.2 (log_choose s r).2

/-- There is one record of the request, and behind it there are the events. -/
theorem log_eq_cons_events (s : Service) (fresh : Ulid) (r : Request) : s.log fresh r =
    .request r.target.path.toStringLossy (Layer.shownId (some (Layer.requestId fresh r))) ::
      s.events fresh r := by
  rw [events_eq, log_eq]

lemma length_events_le (s : Service) (fresh : Ulid) (r : Request) :
    (s.events fresh r).length ≤ 1 := by
  rw [events_eq]
  split
  · exact Nat.zero_le 1
  · exact (log_choose s r).1

/-- The events come from the handler of a route. -/
theorem mem_events_iff_route : e ∈ s.events fresh r ↔
    ∃ route, Route.ofPath? r.target.path = some route ∧
      (r.method = "GET" ∨ r.method = "HEAD") ∧ e ∈ (s.handler route r).log := by
  rw [events_eq]
  -- a handler is not asked with `OPTIONS`, and not found on other paths
  by_cases hoptions : r.method = "OPTIONS"
  · rw [if_pos hoptions, hoptions]
    refine iff_of_false List.not_mem_nil ?_
    rintro ⟨_, _, hmethod, _⟩
    exact absurd hmethod (by decide)
  rw [if_neg hoptions, choose]
  cases hroute : Route.ofPath? r.target.path with
  | none =>
      refine iff_of_false List.not_mem_nil ?_
      rintro ⟨_, hnone, _⟩
      cases hnone
  | some route =>
      simp only [Option.some.injEq, exists_eq_left']
      have hmethods : r.method ∈ route.methods ↔ r.method = "GET" ∨ r.method = "HEAD" := by
        simp only [Route.mem_methods_iff, hoptions, false_and, or_false]
      by_cases hserved : r.method ∈ route.methods
      · rw [if_pos hserved, and_iff_right (hmethods.1 hserved)]
      · rw [if_neg hserved]
        exact iff_of_false List.not_mem_nil fun h => hserved (hmethods.2 h.1)

/-- A status is reported exactly if a page is asked for it and its flow does not know it, and the
build exactly if the health document is asked for and it cannot be named. -/
theorem mem_events_iff : e ∈ s.events fresh r ↔ (r.method = "GET" ∨ r.method = "HEAD") ∧
    ((∃ f t, Route.ofPath? r.target.path = some (.page f) ∧
        r.target.query.bind Query.status? = some t ∧ Outcome.ofToken? f t = none ∧
        e = .unrecognizedStatus f t) ∨
      Route.ofPath? r.target.path = some .health ∧ ¬ isValue (.ofString s.build.appId) ∧
        e = buildRecord) := by
  rw [mem_events_iff_route]
  constructor
  · rintro ⟨route, hroute, hmethod, hmem⟩
    refine ⟨hmethod, ?_⟩
    cases route with
    | page f =>
        rw [handler, Handler.page, mem_statusLog_iff] at hmem
        obtain ⟨t, hstatus, htoken, he⟩ := hmem
        exact Or.inl ⟨f, t, hroute, hstatus, htoken, he⟩
    | health =>
        rw [handler, Handler.health, mem_log_health_iff] at hmem
        exact Or.inr ⟨hroute, hmem⟩
    | description => cases hmem
  · rintro ⟨hmethod, ⟨f, t, hroute, hstatus, htoken, he⟩ | ⟨hroute, hmem⟩⟩
    · refine ⟨_, hroute, hmethod, ?_⟩
      rw [handler, Handler.page, mem_statusLog_iff]
      exact ⟨t, hstatus, htoken, he⟩
    · refine ⟨_, hroute, hmethod, ?_⟩
      rw [handler, Handler.health, mem_log_health_iff]
      exact hmem

/-- A page that is asked for a status is reported exactly if its flow does not know the
status. -/
theorem unrecognizedStatus_mem_log_iff {f : Flow} {t : String} :
    LogRecord.unrecognizedStatus f t ∈ s.log fresh r ↔
      (r.method = "GET" ∨ r.method = "HEAD") ∧
        Route.ofPath? r.target.path = some (.page f) ∧
        r.target.query.bind Query.status? = some t ∧ Outcome.ofToken? f t = none := by
  rw [log_eq_cons_events, List.mem_cons, or_iff_right nofun, mem_events_iff]
  refine and_congr_right fun _ => ⟨?_, ?_⟩
  · rintro (⟨g, t', hroute, hstatus, htoken, he⟩ | ⟨-, -, he⟩)
    · obtain ⟨rfl, rfl⟩ := LogRecord.unrecognizedStatus.inj he
      exact ⟨hroute, hstatus, htoken⟩
    · cases he
  · rintro ⟨hroute, hstatus, htoken⟩
    exact Or.inl ⟨f, t, hroute, hstatus, htoken, rfl⟩

end Service

end ResultPages
