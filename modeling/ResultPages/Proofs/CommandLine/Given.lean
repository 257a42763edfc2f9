/-
Options taken one after the other.

Every option has a place of its own in what has been given.  So options of which none is given
twice can be taken in any order, and the result is the same (`takeAll_of_perm`).  If the name of
a flow cannot be read, that is what is said, wherever the option stands (`takeAll_of_badFlow`).
-/
import Mathlib.Data.List.Nodup
import ResultPages.CommandLine.Given
import ResultPages.Proofs.Text.Utf8

namespace ResultPages

lemma Octets.toString?_eq_some_iff {v : Octets} {s : String} :
    v.toString? = some s ↔ v = ofString s := by
  rw [toString?, Option.map_eq_some_iff]
  constructor
  · rintro ⟨cs, hcs, rfl⟩
    rw [ofString, String.toList_ofList]
    exact Utf8.decode?_eq_some_iff.1 hcs
  · intro hv
    exact ⟨s.toList, Utf8.decode?_eq_some_iff.2 hv, String.ofList_toList⟩

lemma readText_eq_ok_iff {v : Octets} {s : String} : readText v = .ok s ↔ v = .ofString s := by
  rw [← Octets.toString?_eq_some_iff, readText]
  cases v.toString? <;> simp

lemma readText_ofString (s : String) : readText (Octets.ofString s) = .ok s :=
  readText_eq_ok_iff.2 rfl

lemma readValue_eq_ok_iff {α : Type} {argument : String} {read : String → Except ValueError α}
    {v : Octets} {x : α} :
    readValue argument read v = .ok x ↔ ∃ s, v = .ofString s ∧ read s = .ok x := by
  simp only [← readText_eq_ok_iff, readValue]
  cases readText v with
  | error e => simp
  | ok s => cases hread : read s <;> simp [Except.mapError, hread]

lemma readValue_ofString {α : Type} (argument : String) (read : String → Except ValueError α)
    (s : String) : readValue argument read (Octets.ofString s) =
      (read s).mapError (.badValue s argument) := by
  simp only [readValue, readText_ofString]

namespace ValueOption

/-- Whether a text can be the value of an option: a port and a flow have to be read. -/
def Accepts (o : ValueOption) (v : String) : Prop :=
  match o with
  | port => ∃ n, Value.port v = .ok n
  | flow => ∃ f, Value.flow v = .ok f
  | title | host | status => True

end ValueOption

namespace Given

/-! ### One option -/

/-- Keeps the value of an option that accepts it. -/
def put (g : Given) (o : ValueOption) (v : String) : Given :=
  match o with
  | .port => { g with port := (Value.port v).toOption }
  | .title => { g with title := some v }
  | .host => { g with host := some v }
  | .flow => { g with flow := (Value.flow v).toOption }
  | .status => { g with status := some v }

lemma store_eq {o : ValueOption} {v : String} (h : o.Accepts v) (g : Given) :
    g.store o (Octets.ofString v) = .ok (g.put o v) := by
  cases o with
  | port =>
      obtain ⟨n, hn⟩ := h
      simp only [store, put, readValue_ofString, hn]
      rfl
  | flow =>
      obtain ⟨f, hf⟩ := h
      simp only [store, put, readValue_ofString, hf]
      rfl
  | title | host | status =>
      simp only [store, put, readText_ofString]
      rfl

/-- The options have places of their own. -/
lemma put_comm {o o' : ValueOption} (h : o ≠ o') (v v' : String) (g : Given) :
    (g.put o v).put o' v' = (g.put o' v').put o v := by
  cases o <;> cases o' <;> first | rfl | exact absurd rfl h

lemma has_put {o o' : ValueOption} (h : o ≠ o') (v : String) (g : Given) :
    (g.put o v).has o' = g.has o' := by
  cases o <;> cases o' <;> first | rfl | exact absurd rfl h

/-! ### Several options -/

/-- Takes some options with their values. -/
def takeAll (g : Given) (os : List (ValueOption × String)) : Except Complaint Given :=
  os.foldlM (fun g o => g.take o.1 (some (Octets.ofString o.2))) g

/-- Keeps the values of some options. -/
def putAll (g : Given) (os : List (ValueOption × String)) : Given :=
  os.foldl (fun g o => g.put o.1 o.2) g

lemma takeAll_cons (g : Given) (o : ValueOption × String) (os : List (ValueOption × String)) :
    g.takeAll (o :: os) = (g.take o.1 (some (Octets.ofString o.2))).bind (·.takeAll os) :=
  List.foldlM_cons

lemma take_eq {g : Given} {o : ValueOption} {v : String} (hnew : g.has o = false)
    (h : o.Accepts v) : g.take o (some (Octets.ofString v)) = .ok (g.put o v) := by
  simp only [take, hnew, store_eq h]
  rfl

/-- Taking an option leaves the others to be given. -/
lemma has_put_of_not_mem {o : ValueOption × String} {os : List (ValueOption × String)}
    (ho : o.1 ∉ os.map Prod.fst) {g : Given} (hnew : ∀ p ∈ os, g.has p.1 = false) :
    ∀ p ∈ os, (g.put o.1 o.2).has p.1 = false := by
  intro p hp
  have hne : o.1 ≠ p.1 := by
    intro heq
    exact ho (heq ▸ List.mem_map_of_mem hp)
  rw [has_put hne]
  exact hnew p hp

/-- Options that have not been given yet are taken, if none is there twice. -/
lemma takeAll_eq {os : List (ValueOption × String)} (haccepts : ∀ o ∈ os, o.1.Accepts o.2)
    (hnodup : (os.map Prod.fst).Nodup) {g : Given} (hnew : ∀ o ∈ os, g.has o.1 = false) :
    g.takeAll os = .ok (g.putAll os) := by
  induction os generalizing g with
  | nil => rfl
  | cons o os ih =>
      rw [List.forall_mem_cons] at haccepts hnew
      rw [List.map_cons, List.nodup_cons] at hnodup
      rw [takeAll_cons, take_eq hnew.1 haccepts.1]
      exact ih haccepts.2 hnodup.2 (has_put_of_not_mem hnodup.1 hnew.2)

/-- The order in which options are taken does not matter. -/
theorem takeAll_of_perm {os os' : List (ValueOption × String)} (hperm : os.Perm os')
    (haccepts : ∀ o ∈ os', o.1.Accepts o.2) (hnodup : (os'.map Prod.fst).Nodup) {g : Given}
    (hnew : ∀ o ∈ os', g.has o.1 = false) : g.takeAll os = .ok (g.putAll os') := by
  have hnodup' : (os.map Prod.fst).Nodup := (hperm.map Prod.fst).nodup_iff.2 hnodup
  have hcomm : ∀ p ∈ os, ∀ q ∈ os, ∀ g : Given,
      (g.put p.1 p.2).put q.1 q.2 = (g.put q.1 q.2).put p.1 p.2 := by
    intro p hp q hq g
    by_cases heq : p.1 = q.1
    · -- no option is there twice, so it is the same one
      have hsame : p = q := List.inj_on_of_nodup_map hnodup' hp hq heq
      rw [hsame]
    · exact put_comm heq _ _ g
  have hput : g.putAll os = g.putAll os' := hperm.foldl_eq' hcomm g
  rw [← hput]
  exact takeAll_eq (fun o ho => haccepts o (hperm.mem_iff.1 ho)) hnodup'
    fun o ho => hnew o (hperm.mem_iff.1 ho)

/-- A flow that cannot be read is reported, wherever its option stands. -/
theorem takeAll_of_badFlow {os : List (ValueOption × String)} {name : String} {e : ValueError}
    (hflow : Value.flow name = .error e) (hmem : (.flow, name) ∈ os)
    (haccepts : ∀ o ∈ os, o ≠ (.flow, name) → o.1.Accepts o.2)
    (hnodup : (os.map Prod.fst).Nodup) {g : Given} (hnew : ∀ o ∈ os, g.has o.1 = false) :
    g.takeAll os = .error (.badValue name ValueOption.flow.usage e) := by
  induction os generalizing g with
  | nil => exact absurd hmem List.not_mem_nil
  | cons o os ih =>
      rw [List.forall_mem_cons] at haccepts hnew
      rw [List.map_cons, List.nodup_cons] at hnodup
      rw [takeAll_cons]
      by_cases ho : o = (.flow, name)
      · have htake : g.take o.1 (some (Octets.ofString o.2)) =
            .error (.badValue name ValueOption.flow.usage e) := by
          subst ho
          simp only [take, hnew.1, store, readValue_ofString, hflow]
          rfl
        rw [htake]
        rfl
      · have hmem' : (.flow, name) ∈ os := (List.mem_cons.1 hmem).resolve_left (Ne.symm ho)
        rw [take_eq hnew.1 (haccepts.1 ho)]
        exact ih hmem' haccepts.2 hnodup.2 (has_put_of_not_mem hnodup.1 hnew.2)

end Given

end ResultPages
