/-
The two flows that end on a result page, and how each of them can end.

`Outcome f` is the type of the endings of the flow `f`: every flow can succeed or fail, and
only a confirmation can turn out to have been made before.  An outcome has a token, by which
a link names it, and a message, which the page shows.

A page is asked for by a raw status text.  `Outcome.ofStatus` is total: a text that is no
token of the flow, and no text at all, mean failure.  `ofToken?_eq_some_iff` says that the
tokens name the outcomes one to one.
-/

namespace ResultPages

/-- What the user was doing. -/
inductive Flow where
  | confirmation
  | passwordReset
deriving DecidableEq, Repr

namespace Flow

/-- All flows. -/
def all : List Flow := [confirmation, passwordReset]

theorem mem_all (f : Flow) : f ∈ all := by cases f <;> simp [all]

/-- The name of a flow on the command line and in the log. -/
def name : Flow → String
  | confirmation => "confirmation"
  | passwordReset => "password-reset"

/-- The flow with a given name. -/
def ofName? (s : String) : Option Flow := all.find? (·.name = s)

/-- The path of the result page of a flow. -/
def route : Flow → String
  | confirmation => "/confirmation-status"
  | passwordReset => "/password-reset-status"

/-- The flow whose result page has a given path. -/
def ofRoute? (path : String) : Option Flow := all.find? (·.route = path)

/-- The heading of the result page. -/
def heading : Flow → String
  | confirmation => "Email confirmation"
  | passwordReset => "Password reset"

theorem ofName?_name (f : Flow) : ofName? f.name = some f := by cases f <;> rfl

theorem ofRoute?_route (f : Flow) : ofRoute? f.route = some f := by cases f <;> rfl

end Flow

/-- What to tell someone who named a flow that does not exist. -/
def Flow.unknownMessage (s : String) : String :=
  "unknown flow: " ++ s ++ " (expected confirmation or password-reset)"

/-- How a flow can end. -/
inductive Outcome : Flow → Type where
  | success (f : Flow) : Outcome f
  | alreadyConfirmed : Outcome .confirmation
  | failure (f : Flow) : Outcome f
deriving DecidableEq, Repr

namespace Outcome

/-- The outcomes of a flow, the successful one first. -/
def all : (f : Flow) → List (Outcome f)
  | .confirmation => [success _, alreadyConfirmed, failure _]
  | .passwordReset => [success _, failure _]

theorem mem_all {f : Flow} (o : Outcome f) : o ∈ all f := by
  cases f <;> cases o <;> simp [all]

/-- The text by which a link names an outcome. -/
def token {f : Flow} : Outcome f → String
  | success _ => "success"
  | alreadyConfirmed => "already_confirmed"
  | failure _ => "failure"

/-- The text that the result page shows. -/
def message {f : Flow} : Outcome f → String
  | success .confirmation => "Your email has been successfully confirmed!"
  | success .passwordReset =>
    "Your password has been successfully reset! We have sent a new one to your email."
  | alreadyConfirmed => "Your email is already confirmed."
  | failure .confirmation =>
    "This confirmation link is no longer valid. You can request a new one in the app."
  | failure .passwordReset =>
    "This link is no longer valid. You can request a new one in the app."

/-- The outcome with a given token.  Tokens are compared exactly, also in letter case. -/
def ofToken? (f : Flow) (s : String) : Option (Outcome f) := (all f).find? (·.token = s)

/-- The outcome that a page shows for the status it is asked for. -/
def ofStatus (f : Flow) (status : Option String) : Outcome f :=
  (status.bind (ofToken? f)).getD (failure f)

/-- A status that is there and is no token of the flow. -/
def Unrecognized (f : Flow) (status : Option String) : Prop :=
  ∃ s, status = some s ∧ ofToken? f s = none

instance (f : Flow) (status : Option String) : Decidable (Unrecognized f status) :=
  match status with
  | none => .isFalse (by simp [Unrecognized])
  | some s => decidable_of_iff (ofToken? f s = none) (by simp [Unrecognized])

/-! ### Tokens and outcomes -/

theorem ofToken?_token {f : Flow} (o : Outcome f) : ofToken? f o.token = some o := by
  cases f <;> cases o <;> rfl

theorem ofToken?_eq_some_iff {f : Flow} {s : String} {o : Outcome f} :
    ofToken? f s = some o ↔ s = o.token := by
  constructor
  · intro h
    have := List.find?_some h
    simpa using (of_decide_eq_true this).symm
  · rintro rfl
    exact ofToken?_token o

@[simp] theorem ofStatus_none (f : Flow) : ofStatus f none = failure f := rfl

@[simp] theorem ofStatus_token {f : Flow} (o : Outcome f) :
    ofStatus f (some o.token) = o := by simp [ofStatus, ofToken?_token]

end Outcome

end ResultPages
