/-
One vocabulary for each flow.

A status is looked at in four places: the page resolves it to a message, the log reports it if
the flow does not know it, the canonical token is looked up, and a link is made for it.  All of
them split the texts in the same way.  `IsTokenOf` collects what holds of a token of a flow and
`IsUnknownTo` what holds of every other text; `isTokenOf_or_isUnknownTo` says that there is
nothing in between.
-/
import ResultPages.Link
import ResultPages.Proofs.Query.Octets

namespace ResultPages

namespace Link

/-! ### Errors of the host -/

/-- Whether a host is refused, and why, does not depend on the outcome that a link is for. -/
lemma make_eq_error_of_make {host : String} {f g : Flow} {o : Outcome f} {e : LinkError}
    (h : make host o = .error e) (o' : Outcome g) : make host o' = .error e := by
  rw [make] at h ⊢
  generalize dropSubdomain (trim host.toList) = rest at h ⊢
  by_cases hempty : rest = []
  · simpa only [if_pos hempty] using h
  by_cases hdelim : rest.any (delimiters.contains ·)
  · simpa only [if_neg hempty, if_pos hdelim] using h
  · simp only [if_neg hempty, if_neg hdelim] at h ⊢
    cases hparse : Authority.parse rest with
    | ok a =>
        rw [hparse] at h
        cases h
    | error cause => simpa only [hparse] using h

/-- A host is never refused as an unknown status. -/
lemma ne_unknownStatus_of_make {host : String} {f : Flow} {o : Outcome f} {e : LinkError}
    (h : make host o = .error e) (g : Flow) (s : String) : e ≠ .unknownStatus g s := by
  rintro rfl
  rw [make] at h
  split at h
  · cases h
  · split at h
    · cases h
    · split at h <;> cases h

end Link

namespace Outcome

/-! ### The two kinds of texts -/

/-- What holds of the token of an outcome, wherever a status is looked at. -/
structure IsTokenOf {f : Flow} (r : String) (o : Outcome f) : Prop where
  eq_token : r = o.token
  eq_of_eq_token : ∀ o' : Outcome f, r = o'.token → o' = o
  /-- It is read as that outcome, and its canonical form is the text itself. -/
  read : ofToken? f r = some o
  canonical : (ofToken? f r).map token = some r
  /-- The page shows the message of the outcome, and nothing is reported. -/
  message_eq : (ofStatus f (some r)).message = o.message
  recognized : ¬ Unrecognized f (some r)
  /-- There is a link, unless the host is refused; then no outcome of any flow has one. -/
  link_eq : ∀ host, Link.ofStatus host f r = Link.make host o
  link_error : ∀ host e, Link.ofStatus host f r = .error e →
    (∀ g s, e ≠ .unknownStatus g s) ∧ ∀ (g : Flow) (o' : Outcome g), Link.make host o' = .error e

/-- What holds of all other texts. -/
structure IsUnknownTo (f : Flow) (r : String) : Prop where
  ne_token : ∀ o : Outcome f, r ≠ o.token
  read : ofToken? f r = none
  canonical : (ofToken? f r).map token = none
  /-- The page shows the message for failure, and the text is reported. -/
  message_eq : (ofStatus f (some r)).message = (failure f).message
  unrecognized : Unrecognized f (some r)
  /-- There is no link, whatever the host is. -/
  link_error : ∀ host, Link.ofStatus host f r = .error (.unknownStatus f r)

lemma token_injective {f : Flow} : Function.Injective (token (f := f)) := by
  intro o o' h
  have hread := ofToken?_token o
  rw [h, ofToken?_token] at hread
  exact (Option.some.inj hread).symm

lemma isTokenOf_token {f : Flow} (o : Outcome f) : IsTokenOf o.token o where
  eq_token := rfl
  eq_of_eq_token o' h := token_injective h.symm
  read := ofToken?_token o
  canonical := by rw [ofToken?_token, Option.map_some]
  message_eq := by rw [ofStatus_token]
  recognized := by
    rintro ⟨s, hs, hread⟩
    rw [← Option.some.inj hs, ofToken?_token] at hread
    cases hread
  link_eq host := by simp only [Link.ofStatus, ofToken?_token]
  link_error host e h := by
    simp only [Link.ofStatus, ofToken?_token] at h
    exact ⟨Link.ne_unknownStatus_of_make h, fun g o' => Link.make_eq_error_of_make h o'⟩

lemma isUnknownTo_of_ofToken? {f : Flow} {r : String} (h : ofToken? f r = none) :
    IsUnknownTo f r where
  ne_token o hr := by
    rw [hr, ofToken?_token] at h
    cases h
  read := h
  canonical := by rw [h, Option.map_none]
  message_eq := by simp only [ofStatus, Option.bind_some, h, Option.getD_none]
  unrecognized := ⟨r, rfl, h⟩
  link_error host := by simp only [Link.ofStatus, h]

/-- The message of an outcome other than failure is shown only for its token. -/
lemma message_ofStatus_eq_iff {f : Flow} {o : Outcome f} (ho : o ≠ failure f) (r : String) :
    (ofStatus f (some r)).message = o.message ↔ r = o.token := by
  rw [message_injective.eq_iff, ofStatus_eq_iff ho, Option.some.injEq]

/-- One vocabulary for each flow: every text is the token of exactly one outcome, wherever a
status is looked at, or unknown to the flow, wherever it is looked at.  No status at all means
failure and is not reported, and tokens and messages name the outcomes one to one. -/
theorem isTokenOf_or_isUnknownTo (f : Flow) :
    (∀ r : String, (∃ o : Outcome f, IsTokenOf r o) ∨ IsUnknownTo f r) ∧
    (ofStatus f none).message = (failure f).message ∧ ¬ Unrecognized f none ∧
    Function.Injective (token (f := f)) ∧ Function.Injective (message (f := f)) ∧
    ∀ o : Outcome f, o ≠ failure f → ∀ r : String,
      ((ofStatus f (some r)).message = o.message ↔ r = o.token) := by
  refine ⟨?_, rfl, ?_, token_injective, message_injective, fun o => message_ofStatus_eq_iff⟩
  · intro r
    cases hread : ofToken? f r with
    | some o =>
        obtain rfl := ofToken?_eq_some_iff.1 hread
        exact Or.inl ⟨o, isTokenOf_token o⟩
    | none => exact Or.inr (isUnknownTo_of_ofToken? hread)
  · rintro ⟨s, hs, -⟩
    cases hs

end Outcome

end ResultPages
