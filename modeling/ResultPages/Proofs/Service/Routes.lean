/-
Which handler a request gets.

A path leads to a route octet for octet (`Route.ofPath?_eq_some_iff`), and all routes serve `GET`
and `HEAD`.  There are four cases, told by the method and the path: `OPTIONS`, for which no
handler is asked, a method that the route serves, one that it refuses, and a path that leads
nowhere.
-/
import ResultPages.Proofs.Service.Layers

namespace ResultPages

/-! ### Routes -/

namespace Route

/-- The path of the page of a flow leads to it. -/
lemma ofPath?_route (f : Flow) : ofPath? (.ofString f.route) = some (.page f) := by
  cases f <;> decide

/-- A path leads to a route octet for octet. -/
theorem ofPath?_eq_some_iff {path : Octets} {route : Route} :
    ofPath? path = some route ↔ path = Octets.ofString route.path := by
  constructor
  · intro h
    rw [ofPath?] at h
    have hpath := List.find?_some h
    exact (of_decide_eq_true hpath).symm
  · rintro rfl
    cases route with
    | page f => exact ofPath?_route f
    | health => decide +kernel
    | description => decide

lemma ofPath?_eq_none_iff {path : Octets} :
    ofPath? path = none ↔ ∀ route : Route, path ≠ Octets.ofString route.path := by
  constructor
  · rintro h route rfl
    rw [ofPath?_eq_some_iff.2 rfl] at h
    cases h
  · intro h
    cases hroute : ofPath? path with
    | none => rfl
    | some route => exact absurd (ofPath?_eq_some_iff.1 hroute) (h route)

/-- Every route has `GET` and `HEAD`, and the health document has `OPTIONS` too. -/
lemma mem_methods_iff {route : Route} {m : String} :
    m ∈ route.methods ↔ m = "GET" ∨ m = "HEAD" ∨ m = "OPTIONS" ∧ route = .health := by
  cases route <;> simp [methods]

/-- The header with the methods of a route can be taken apart again. -/
lemma pieces_allow (route : Route) :
    pieces ','.toUInt8 route.allow.value = route.methods.map Octets.ofString := by
  rcases route with f | _ | _
  · cases f <;> decide +kernel
  · decide +kernel
  · decide +kernel

lemma mem_pieces_allow_iff (route : Route) (m : String) :
    Octets.ofString m ∈ pieces ','.toUInt8 route.allow.value ↔ m ∈ route.methods := by
  rw [pieces_allow, List.mem_map_of_injective Octets.ofString_injective]

end Route

/-! ### Cases -/

namespace Service

variable (s : Service) {r : Request} {route : Route}

lemma own_of_options (hmethod : r.method = "OPTIONS") :
    s.own r = .bare 200 [Layer.methodsHeader] := if_pos hmethod

/-- What the handler of a route says, if the route serves the method. -/
lemma own_of_served (hroute : Route.ofPath? r.target.path = some route)
    (hmethod : r.method = "GET" ∨ r.method = "HEAD") :
    s.own r = (s.handler route r).response := by
  have hoptions : r.method ≠ "OPTIONS" := by
    rintro heq
    rw [heq] at hmethod
    exact absurd hmethod (by decide)
  have hserved : r.method ∈ route.methods :=
    Route.mem_methods_iff.2 (hmethod.imp_right Or.inl)
  simp only [own, choose, hroute, if_neg hoptions, if_pos hserved]

lemma allow?_of_served (hroute : Route.ofPath? r.target.path = some route)
    (hmethod : r.method = "GET" ∨ r.method = "HEAD") : allow? r = none := by
  have hserved : r.method ∈ route.methods :=
    Route.mem_methods_iff.2 (hmethod.imp_right Or.inl)
  simp only [allow?, hroute, if_pos hserved]

/-- What is said to a method that the route does not serve, and which methods are named. -/
lemma own_of_refused (hroute : Route.ofPath? r.target.path = some route)
    (hoptions : r.method ≠ "OPTIONS") (hget : r.method ≠ "GET") (hhead : r.method ≠ "HEAD") :
    s.own r = .bare 405 [] ∧ allow? r = some route.allow := by
  have hrefused : r.method ∉ route.methods := by
    rw [Route.mem_methods_iff]
    rintro (h | h | h)
    · exact hget h
    · exact hhead h
    · exact hoptions h.1
  simp only [own, choose, allow?, hroute, if_neg hoptions, if_neg hrefused, Handler.notAllowed,
    and_self]

lemma own_of_none (hroute : Route.ofPath? r.target.path = none)
    (hoptions : r.method ≠ "OPTIONS") : s.own r = .bare 404 [] := by
  simp only [own, choose, hroute, if_neg hoptions, Handler.notFound]

end Service

end ResultPages
