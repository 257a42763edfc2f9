/-
The log and the answer speak of the same request.

The record of a request shows its path as it was sent.  The identifier in it is the one of the
answer if that can be shown at all, and otherwise the word `none`; a request without an
identifier of its own has one that can be shown (`log_names_answer`).
-/
import ResultPages.Proofs.Http.PathText
import ResultPages.Proofs.Service.Relevant
import ResultPages.Proofs.Service.Reported

namespace ResultPages

namespace Octets

/-- A text is what its octets are read as. -/
lemma IsText.ofString_toStringLossy {bs : Octets} (h : IsText bs) :
    ofString bs.toStringLossy = bs := by
  obtain ⟨s, rfl⟩ := h
  rw [toStringLossy_ofString]

end Octets

namespace Layer

/-! ### The identifier -/

lemma isVisible_iff {id : Octets} : IsVisible id ↔ id.all isVisible = true := by
  have hbound : ∀ b : UInt8, b ≤ 0x7E ↔ b < 0x7F := by
    intro b
    rw [UInt8.le_iff_toNat_le, UInt8.lt_iff_toNat_lt]
    exact Nat.lt_succ_iff.symm
  simp only [IsVisible, List.all_eq_true, isVisible, Bool.or_eq_true, Bool.and_eq_true,
    beq_iff_eq, decide_eq_true_eq, hbound]

lemma IsVisible.isText {id : Octets} (h : IsVisible id) : id.IsText := by
  apply Octets.isText_of_ascii
  intro b hb
  obtain rfl | ⟨-, hle⟩ := h b hb
  · decide
  · exact UInt8.lt_of_le_of_lt hle (by decide)

lemma ofString_shownId {id : Octets} (h : IsVisible id) : .ofString (shownId (some id)) = id := by
  rw [shownId, if_pos (isVisible_iff.1 h)]
  exact h.isText.ofString_toStringLossy

lemma shownId_of_not_isVisible {id : Octets} (h : ¬ IsVisible id) : shownId (some id) = "none" := by
  rw [shownId, if_neg (mt isVisible_iff.2 h)]

lemma toText_ne_none (fresh : Ulid) : fresh.toText ≠ "none" := by
  intro h
  have hlength := fresh.length_toText
  rw [h] at hlength
  exact absurd hlength (by decide)

end Layer

namespace Service

open Layer

variable (s : Service) (fresh : Ulid)

/-! ### The record of a request -/

/-- The records that are opened for the time of a request. -/
def spans (r : Request) : List LogRecord :=
  (s.log fresh r).filter fun e => e.spanName? = some "http-request"

lemma spans_eq (r : Request) : s.spans fresh r =
    [.request r.target.path.toStringLossy (shownId (some (requestId fresh r)))] := by
  rw [spans, log_eq_cons_events, List.filter_cons_of_pos (by rfl), List.cons_inj_right,
    List.filter_eq_nil_iff]
  intro e he
  have hevent : e.isEvent := (List.mem_filter.1 he).2
  rw [LogRecord.isEvent, Option.isNone_iff_eq_none] at hevent
  rw [hevent]
  decide

/-- For every request one record is opened.  It has the path as it was sent, and the identifier
of the answer if that can be shown, and otherwise `none`.  It never has `none` if the client sent
no identifier. -/
theorem log_names_answer {method target : String}
    {headers : List (String × Octets)} {body : Octets} {r : Request}
    (h : Request.parse method target headers body = .ok r) :
    ∃ e path shown id, s.spans fresh r = [e] ∧
      e.field? "path" = some path ∧ e.field? "request_id" = some shown ∧
      Octets.ofString path = r.target.path ∧
      (r.target.path <:+: Octets.ofString target ∨ r.target.path = Octets.ofString "/") ∧
      Header.valuesOf "x-request-id" (s.answer fresh r).headers = [id] ∧
      (IsVisible id → Octets.ofString shown = id) ∧ (¬ IsVisible id → shown = "none") ∧
      (Request.firstValue? "x-request-id" headers = none → shown ≠ "none") := by
  obtain ⟨-, htarget, -⟩ := Request.of_parse h
  have hpath : r.target.path.IsText := Target.isText_path htarget (Octets.isText_ofString target)
  refine ⟨_, _, _, _, spans_eq s fresh r, rfl, rfl, hpath.ofString_toStringLossy,
    Target.path_sent htarget, valuesOf_answer_id s fresh r, ofString_shownId,
    shownId_of_not_isVisible, ?_⟩
  -- an identifier of the service's own can be shown, and has more letters than `none`
  intro hsent hnone
  change shownId (some (requestId fresh r)) = "none" at hnone
  have hid : requestId fresh r = .ofString fresh.toText := by
    rw [requestId_of_parse h, hsent]
    rfl
  have hshown := ofString_shownId (isVisible_fresh fresh)
  rw [← hid, hnone, hid] at hshown
  exact toText_ne_none fresh (Octets.ofString_injective hshown.symm)

/-- A request with a path outside ASCII and an identifier that cannot be shown, to which the
answer is that nothing is there. -/
theorem log_names_answer_opaque : ∃ r : Request,
    let s : Service := ⟨none, defaultTitle⟩
    Request.parse "PUT" "http://example.com/é?x" [("X-Request-Id", [0xE9, 0x31])] [] = .ok r ∧
    ∃ e, s.spans (.ofParts 0 0) r = [e] ∧ e.field? "path" = some "/é" ∧
      e.field? "request_id" = some "none" ∧
      Header.valuesOf "x-request-id" (s.answer (.ofParts 0 0) r).headers =
        [[0xE9, 0x31]] := by
  have hparse : Request.parse "PUT" "http://example.com/é?x" [("X-Request-Id", [0xE9, 0x31])] [] =
      .ok ⟨"PUT", ⟨.ofString "http", .ofString "example.com", .ofString "/é",
        some (.ofString "x")⟩, [⟨"x-request-id", [0xE9, 0x31]⟩], []⟩ := by decide +kernel
  obtain ⟨e, path, shown, id, hspans, hpath, hshown, htext, -, hid, -, hnone, -⟩ :=
    log_names_answer ⟨none, defaultTitle⟩ (.ofParts 0 0) hparse
  obtain rfl : path = "/é" := Octets.ofString_injective htext
  obtain rfl : id = [0xE9, 0x31] := by
    rw [valuesOf_answer_id] at hid
    exact (List.singleton_inj.1 hid).symm
  have hopaque : ¬ IsVisible [0xE9, 0x31] := by
    rw [isVisible_iff]
    decide
  rw [hnone hopaque] at hshown
  exact ⟨_, hparse, e, hspans, hpath, hshown, hid⟩

end Service

end ResultPages
