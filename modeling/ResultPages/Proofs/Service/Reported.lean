/-
Which statuses are reported, and what the report says.

There is at most one event about a request.  A page is reported exactly if it is asked for with a
status that its flow does not know, and nothing else is, if only the build can be named in a
header.  The report names the flow, and it quotes the status in a way that no status can be
mistaken for another one or for the end of the line (`unrecognized_status_reported`).
-/
import ResultPages.Proofs.Health.Commit
import ResultPages.Proofs.Query.Octets
import ResultPages.Proofs.Service.Log
import ResultPages.Proofs.Text.Quoted

namespace ResultPages

lemma Outcome.ofToken?_eq_none_iff {f : Flow} {s : String} :
    ofToken? f s = none ↔ ∀ o : Outcome f, s ≠ o.token := by
  rw [Option.eq_none_iff_forall_ne_some]
  simp only [Ne, ofToken?_eq_some_iff]

namespace LogRecord

/-- The field of a record with a given name. -/
def field? (e : LogRecord) (name : String) : Option String :=
  (e.fields.find? (·.1 = name)).map (·.2)

section Fields

variable (f : Flow) (s : String)

lemma field?_flow : (unrecognizedStatus f s).field? "flow" = some f.name := rfl

lemma field?_message : (unrecognizedStatus f s).field? "message" =
    some "unrecognized status, rendering failure" := rfl

lemma field?_status : (unrecognizedStatus f s).field? "status" =
    some (String.ofList (Quoted.present s.toList)) := rfl

end Fields

end LogRecord

namespace Service

/-- A page is asked for with a status that its flow does not know: the first piece of the query
whose key spells `status` has a value that is read as this status. -/
structure AsksUnrecognized (r : Request) (f : Flow) (t : String) : Prop where
  method_eq : r.method = "GET" ∨ r.method = "HEAD"
  path_eq : r.target.path = .ofString f.route
  decided : ∃ value, Query.IsDecidedBy r.target.query value ∧ Query.readPart value = t
  ne_token : ∀ o : Outcome f, t ≠ o.token

variable {s : Service} {fresh : Ulid} {r : Request} {f : Flow} {t : String} {e : LogRecord}

lemma asksUnrecognized_iff : AsksUnrecognized r f t ↔ (r.method = "GET" ∨ r.method = "HEAD") ∧
    Route.ofPath? r.target.path = some (.page f) ∧
    r.target.query.bind Query.status? = some t ∧ Outcome.ofToken? f t = none := by
  rw [Route.ofPath?_eq_some_iff, Query.status?_eq_some_iff, Outcome.ofToken?_eq_none_iff]
  constructor
  · intro h
    exact ⟨h.method_eq, h.path_eq, h.decided, h.ne_token⟩
  · rintro ⟨hmethod, hpath, hdecided, htoken⟩
    exact ⟨hmethod, hpath, hdecided, htoken⟩

/-- A request for a page has no other event than the report of its status. -/
lemma mem_events_iff_of_asks (h : AsksUnrecognized r f t) :
    e ∈ s.events fresh r ↔ e = .unrecognizedStatus f t := by
  obtain ⟨hmethod, hroute, hstatus, htoken⟩ := asksUnrecognized_iff.1 h
  rw [mem_events_iff, and_iff_right hmethod]
  constructor
  · rintro (⟨g, t', hroute', hstatus', -, rfl⟩ | ⟨hhealth, -⟩)
    · obtain rfl : f = g := Route.page.inj (Option.some.inj (hroute.symm.trans hroute'))
      obtain rfl : t = t' := Option.some.inj (hstatus.symm.trans hstatus')
      rfl
    · cases hroute.symm.trans hhealth
  · intro he
    exact Or.inl ⟨f, t, hroute, hstatus, htoken, he⟩

/-- A build that can be named leaves the statuses as the only matter of events. -/
lemma mem_events_iff_of_isValue (hbuild : isValue (.ofString s.build.appId)) :
    e ∈ s.events fresh r ↔ ∃ f t, e = .unrecognizedStatus f t ∧ AsksUnrecognized r f t := by
  constructor
  · intro he
    obtain ⟨hmethod, ⟨f, t, hroute, hstatus, htoken, rfl⟩ | ⟨-, hunnamed, -⟩⟩ :=
      mem_events_iff.1 he
    · exact ⟨f, t, rfl, asksUnrecognized_iff.2 ⟨hmethod, hroute, hstatus, htoken⟩⟩
    · exact absurd hbuild hunnamed
  · rintro ⟨f, t, rfl, h⟩
    exact (mem_events_iff_of_asks h).2 rfl

/-- What an event says: the flow of the page, and the status without any control character. -/
structure IsReport (e : LogRecord) (f : Flow) : Prop where
  level_eq : e.level = .debug
  message_eq : e.field? "message" = some "unrecognized status, rendering failure"
  flow_eq : e.field? "flow" = some f.name
  exists_status : ∃ shown, e.field? "status" = some shown ∧
    ∀ c ∈ shown.toList, 0x20 ≤ c.toNat ∧ c.toNat ≠ 0x7F

lemma isReport_unrecognizedStatus (f : Flow) (t : String) :
    IsReport (.unrecognizedStatus f t) f := by
  refine ⟨rfl, LogRecord.field?_message f t, LogRecord.field?_flow f t, _,
    LogRecord.field?_status f t, ?_⟩
  intro c hc
  rw [String.toList_ofList] at hc
  exact Quoted.isPlain_iff.1 (Quoted.isPlain_of_mem_present hc)

/-- The quoted status tells which status was asked for. -/
lemma eq_of_field?_eq {f' : Flow} {t' : String}
    (h : (LogRecord.unrecognizedStatus f t).field? "status" =
      (LogRecord.unrecognizedStatus f' t').field? "status") : t = t' := by
  rw [LogRecord.field?_status, LogRecord.field?_status, Option.some.injEq,
    String.ofList_inj] at h
  exact String.toList_inj.1 (Quoted.present_injective h)

/-- A request has at most one event, and has it exactly if a page is asked for with a status
that its flow does not know.  The event names the flow, no control character stands in the
status as it is quoted, and requests with different statuses have different events, even those
that other builds log. -/
theorem unrecognized_status_reported (hbuild : isValue (.ofString s.build.appId)) (fresh : Ulid)
    (r : Request) :
    (s.events fresh r).length ≤ 1 ∧
    (∀ e, e ∈ s.events fresh r ↔
      ∃ f t, e = .unrecognizedStatus f t ∧ AsksUnrecognized r f t) ∧
    (∀ e ∈ s.events fresh r, ∃ f t, AsksUnrecognized r f t ∧ IsReport e f) ∧
    (∀ (s' : Service) (fresh' : Ulid) (r' : Request) (f f' : Flow) (t t' : String),
      AsksUnrecognized r f t → AsksUnrecognized r' f' t' → t ≠ t' →
      ∀ e ∈ s.events fresh r, ∀ e' ∈ s'.events fresh' r',
        e.field? "status" ≠ e'.field? "status") := by
  refine ⟨length_events_le s fresh r, fun e => mem_events_iff_of_isValue hbuild, ?_, ?_⟩
  · intro e he
    obtain ⟨f, t, rfl, hasks⟩ := (mem_events_iff_of_isValue hbuild).1 he
    exact ⟨f, t, hasks, isReport_unrecognizedStatus f t⟩
  · intro s' fresh' r' f f' t t' hasks hasks' hne e he e' he' hfield
    obtain rfl := (mem_events_iff_of_asks hasks).1 he
    obtain rfl := (mem_events_iff_of_asks hasks').1 he'
    exact hne (eq_of_field?_eq hfield)

/-- A status that would break the line, were it not quoted. -/
theorem unrecognized_status_reported_newline : ∃ r : Request,
    let s : Service := ⟨some "0123456789abcdef", defaultTitle⟩
    Request.parse "GET" "/confirmation-status?a&status=%0Aoops" [] [] = .ok r ∧
    isValue (.ofString s.build.appId) ∧ AsksUnrecognized r .confirmation "\noops" ∧
    ∃ e, s.events (.ofParts 0 0) r = [e] ∧ IsReport e .confirmation ∧
      e.field? "status" = some "Some(\"\\noops\")" := by
  have hparse : Request.parse "GET" "/confirmation-status?a&status=%0Aoops" [] [] =
      .ok ⟨"GET", ⟨[], [], .ofString "/confirmation-status",
        some (.ofString "a&status=%0Aoops")⟩, [], []⟩ := by decide +kernel
  have hbuild : isValue (.ofString
      (⟨some "0123456789abcdef", defaultTitle⟩ : Service).build.appId) := isValue_appId_of_hash
  have hasks : AsksUnrecognized ⟨"GET", ⟨[], [], .ofString "/confirmation-status",
      some (.ofString "a&status=%0Aoops")⟩, [], []⟩ .confirmation "\noops" :=
    asksUnrecognized_iff.2 ⟨Or.inl rfl, Route.ofPath?_route .confirmation, by decide +kernel,
      by decide⟩
  obtain ⟨hone, hevents, -⟩ := unrecognized_status_reported hbuild (.ofParts 0 0) _
  have hmem := (hevents _).2 ⟨_, _, rfl, hasks⟩
  obtain ⟨e, hsingle⟩ := List.length_eq_one_iff.1 (Nat.le_antisymm hone
    (List.length_pos_of_mem hmem))
  rw [hsingle, List.mem_singleton] at hmem
  subst hmem
  refine ⟨_, hparse, hbuild, hasks, _, hsingle, ?_, by decide +kernel⟩
  exact isReport_unrecognizedStatus _ _

end Service

end ResultPages
