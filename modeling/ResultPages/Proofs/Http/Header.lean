/-
Lists of headers, and the headers of a request that has been read.

A header that is set or offered where its name does not occur yet is put at the end
(`set_eq_append`, `offer_eq_append`).  The values of a header of a request are those that were
sent under its name, in whatever letters the name was written (`valuesOf_of_mapM`).
-/
import Mathlib.Data.List.Basic
import ResultPages.Http.Message
import ResultPages.Proofs.Text.Utf8

namespace ResultPages

lemma Octets.ofString_injective : Function.Injective Octets.ofString := by
  intro s t h
  rw [← Octets.toStringLossy_ofString s, h, Octets.toStringLossy_ofString]

/-! ### Lists of headers -/

namespace Header

variable {name : String} {h : Header} {hs : List Header}

lemma valuesOf_append (name : String) (hs ks : List Header) :
    valuesOf name (hs ++ ks) = valuesOf name hs ++ valuesOf name ks := by
  rw [valuesOf, List.filter_append, List.map_append]
  rfl

lemma valuesOf_eq_nil (hno : ∀ k ∈ hs, k.name ≠ name) : valuesOf name hs = [] := by
  rw [valuesOf, List.filter_eq_nil_iff.2, List.map_nil]
  exact fun k hk heq => hno k hk (of_decide_eq_true heq)

lemma set_eq_append (hno : ∀ k ∈ hs, k.name ≠ h.name) : h.set hs = hs ++ [h] := by
  rw [set, List.filter_eq_self.2]
  exact fun k hk => decide_eq_true (hno k hk)

lemma offer_eq_append (hno : ∀ k ∈ hs, k.name ≠ h.name) : h.offer hs = hs ++ [h] := by
  rw [offer, if_pos (valuesOf_eq_nil hno)]

/-- A header that is offered is the only one with its name, unless there was another one. -/
lemma valuesOf_offer (h : Header) (hs : List Header) : valuesOf h.name (h.offer hs) =
    if valuesOf h.name hs = [] then [h.value] else valuesOf h.name hs := by
  rw [offer]
  split
  · next hnone =>
    rw [valuesOf_append, hnone]
    simp [valuesOf]
  · rfl

end Header

/-! ### Requests -/

namespace Request

lemma eq_of_parseHeader {name : String} {value : Octets} {h : Header}
    (hparse : parseHeader name value = .ok h) : h = ⟨name.toLower, value⟩ := by
  rw [parseHeader] at hparse
  split at hparse
  · cases hparse
  split at hparse
  · cases hparse
  · exact (Except.ok.inj hparse).symm

/-- The values of a header are those that were sent under its name, in whatever letters. -/
lemma valuesOf_of_mapM {headers : List (String × Octets)} {hs : List Header}
    (h : (headers.mapM fun k => parseHeader k.1 k.2) = .ok hs) (name : String) :
    Header.valuesOf name hs = (headers.filter (·.1.toLower = name)).map (·.2) := by
  induction headers generalizing hs with
  | nil =>
      obtain rfl := Except.ok.inj h
      rfl
  | cons k headers ih =>
      rw [List.mapM_cons] at h
      cases hk : parseHeader k.1 k.2 with
      | error e =>
          rw [hk] at h
          cases h
      | ok k' =>
          rw [hk] at h
          cases hrest : headers.mapM fun k => parseHeader k.1 k.2 with
          | error e =>
              rw [hrest] at h
              cases h
          | ok hs' =>
              rw [hrest] at h
              obtain rfl := Except.ok.inj h
              obtain rfl := eq_of_parseHeader hk
              have hih := ih hrest
              rw [Header.valuesOf] at hih ⊢
              by_cases hname : k.1.toLower = name
              · simp [hname, hih]
              · simp [hname, hih]

/-- What the parts of a request come from. -/
lemma of_parse {method target : String} {headers : List (String × Octets)} {body : Octets}
    {r : Request} (h : parse method target headers body = .ok r) :
    r.method = method ∧ Target.parse (Octets.ofString target) = .ok r.target ∧
      (∀ name, Header.valuesOf name r.headers =
        (headers.filter (·.1.toLower = name)).map (·.2)) ∧ r.body = body := by
  rw [parse] at h
  split at h
  · cases h
  split at h
  · cases h
  next t htarget =>
  cases hheaders : headers.mapM fun k => parseHeader k.1 k.2 with
  | error e =>
      rw [hheaders] at h
      cases h
  | ok hs =>
      rw [hheaders] at h
      obtain rfl := Except.ok.inj h
      exact ⟨rfl, htarget, valuesOf_of_mapM hheaders, rfl⟩

end Request

end ResultPages
