/-
Options and flags taken one after the other.

Arguments give options with their values and flags for verbosity, and these are taken in the
order in which they stand.  Two things are followed through all of them:

* an option has been given in the end exactly if it is there (`has_of_takeItems`);
* flags put among options change nothing but the verbosity, which is their number, as long as
  there are no more than five of them; the sixth is refused (`takeItems_flagged`).
-/
import Mathlib.Tactic.Common
import ResultPages.CommandLine.Given

namespace ResultPages

/-- What comes out of a step that did not fail. -/
lemma exists_of_map_eq_ok {ε α β : Type} {x : Except ε α} {f : α → β} {b : β}
    (h : x.map f = .ok b) : ∃ a, x = .ok a ∧ f a = b := by
  cases x with
  | error e => cases h
  | ok a => exact ⟨a, rfl, Except.ok.inj h⟩

lemma exists_of_bind_eq_ok {ε α β : Type} {x : Except ε α} {f : α → Except ε β} {b : β}
    (h : x.bind f = .ok b) : ∃ a, x = .ok a ∧ f a = .ok b := by
  cases x with
  | error e => cases h
  | ok a => exact ⟨a, rfl, h⟩

lemma bind_bind {ε α β γ : Type} (x : Except ε α) (f : α → Except ε β) (k : β → Except ε γ) :
    (x.bind f).bind k = x.bind fun a => (f a).bind k := by
  cases x <;> rfl

/-- One thing that the arguments of a command give. -/
inductive Item where
  /-- An option with its value. -/
  | option (o : ValueOption) (v : Octets)
  /-- A flag for verbosity. -/
  | flag
deriving DecidableEq, Repr

namespace Given

/-- Takes an item. -/
def takeItem (g : Given) : Item → Except Complaint Given
  | .option o v => g.take o (some v)
  | .flag => g.louder

@[simp] lemma takeItem_option (g : Given) (o : ValueOption) (v : Octets) :
    g.takeItem (.option o v) = g.take o (some v) := rfl

@[simp] lemma takeItem_flag (g : Given) : g.takeItem .flag = g.louder := rfl

/-- Takes some items. -/
def takeItems (g : Given) (is : List Item) : Except Complaint Given := is.foldlM takeItem g

lemma takeItems_cons (g : Given) (i : Item) (is : List Item) :
    g.takeItems (i :: is) = (g.takeItem i).bind (·.takeItems is) :=
  List.foldlM_cons

lemma takeItems_append (g : Given) (is js : List Item) :
    g.takeItems (is ++ js) = (g.takeItems is).bind (·.takeItems js) :=
  List.foldlM_append

lemma takeItems_singleton (g : Given) (i : Item) : g.takeItems [i] = g.takeItem i := by
  rw [takeItems_cons]
  cases g.takeItem i <;> rfl

/-! ### One item -/

/-- A value that is kept changes its own option and nothing else. -/
lemma of_store {g g' : Given} {o : ValueOption} {v : Octets} (h : g.store o v = .ok g') :
    g'.has o = true ∧ (∀ o', o' ≠ o → g'.has o' = g.has o') ∧ g'.verbosity = g.verbosity := by
  cases o <;> obtain ⟨x, -, rfl⟩ := exists_of_map_eq_ok h <;>
    refine ⟨rfl, ?_, rfl⟩ <;> intro o' ho' <;> cases o' <;>
      first | rfl | exact absurd rfl ho'

lemma of_take {g g' : Given} {o : ValueOption} {v : Option Octets} (h : g.take o v = .ok g') :
    ∃ w, v = some w ∧ g.has o = false ∧ g.store o w = .ok g' := by
  cases v with
  | none => cases h
  | some w =>
      rw [take] at h
      cases hhas : g.has o with
      | true =>
          rw [hhas] at h
          cases h
      | false =>
          rw [hhas] at h
          exact ⟨w, rfl, rfl, h⟩

lemma has_of_louder {g g' : Given} (h : g.louder = .ok g') (o : ValueOption) :
    g'.has o = g.has o := by
  obtain ⟨n, -, rfl⟩ := exists_of_map_eq_ok h
  cases o <;> rfl

/-! ### What is there in the end -/

/-- An option has been given exactly if it is there. -/
theorem has_of_takeItems {g g' : Given} {is : List Item} (h : g.takeItems is = .ok g')
    (o : ValueOption) : g'.has o = true ↔ g.has o = true ∨ ∃ v, Item.option o v ∈ is := by
  induction is generalizing g with
  | nil =>
      obtain rfl := Except.ok.inj h
      simp
  | cons i is ih =>
      rw [takeItems_cons] at h
      obtain ⟨g₁, hi, his⟩ := exists_of_bind_eq_ok h
      rw [ih his]
      cases i with
      | option o₁ v =>
          rw [takeItem_option] at hi
          obtain ⟨w, -, -, hstore⟩ := of_take hi
          obtain ⟨hown, hother, -⟩ := of_store hstore
          by_cases ho : o = o₁
          · subst ho
            exact iff_of_true (Or.inl hown) (Or.inr ⟨v, List.mem_cons_self⟩)
          · have hne : ∀ w, Item.option o w ≠ .option o₁ v := by
              intro w hw
              exact ho (Item.option.inj hw).1
            simp only [hother o ho, List.mem_cons, hne, false_or]
      | flag =>
          have hne : ∀ w, Item.option o w ≠ .flag := by
            intro w hw
            cases hw
          simp only [has_of_louder hi o, List.mem_cons, hne, false_or]

/-! ### Flags among options -/

/-- What has been given, and a number of flags besides. -/
def flagged (g : Given) (n : Nat) : Given :=
  if n = 0 then g else { g with verbosity := some n }

/-- What is said about the sixth flag. -/
def tooLoud : Complaint := .badValue "6" Switch.verbose.usage .invalidLevel

lemma flagged_zero (g : Given) : g.flagged 0 = g := rfl

/-- Options do not look at the flags. -/
lemma take_flagged (g : Given) (n : Nat) (o : ValueOption) (v : Octets) :
    (g.flagged n).take o (some v) = (g.take o (some v)).map (·.flagged n) := by
  cases n with
  | zero =>
      have hid : (fun g : Given => g.flagged 0) = id := rfl
      rw [flagged_zero, hid]
      cases g.take o (some v) <;> rfl
  | succ n =>
      have hhas : (g.flagged (n + 1)).has o = g.has o := by cases o <;> rfl
      have hstore : (g.flagged (n + 1)).store o v = (g.store o v).map (·.flagged (n + 1)) := by
        cases o with
        | port | flow => simp only [store]; cases readValue _ _ v <;> rfl
        | title | host | status => simp only [store]; cases readText v <;> rfl
      rw [take, take, hhas, hstore]
      cases g.has o <;> rfl

lemma louder_flagged {g : Given} (hg : g.verbosity = none) {n : Nat} (hn : n ≤ 5) :
    (g.flagged n).louder =
      if n + 1 ≤ 5 then .ok (g.flagged (n + 1)) else .error tooLoud := by
  have hread : ∀ m ≤ 4, Value.verbosity (Nat.repr (m + 1)) = .ok (m + 1) := by decide
  have hsix : Value.verbosity (Nat.repr 6) = .error .invalidLevel := by decide
  have hcount : (g.flagged n).verbosity.getD 0 = n := by
    cases n with
    | zero => rw [flagged_zero, hg]; rfl
    | succ n => rfl
  have hput : ∀ m, { g.flagged n with verbosity := some (m + 1) } = g.flagged (m + 1) := by
    intro m
    cases n <;> rfl
  rw [louder, hcount]
  split
  · next hle =>
    rw [hread n (by omega), ← hput]
    rfl
  · next hgt =>
    obtain rfl : n = 5 := by omega
    rw [hsix]
    rfl

/-- Flags among options change the verbosity alone, which is their number.  A sixth flag is
refused. -/
theorem takeItems_flagged {g g' : Given} {is : List Item} (hg : g.verbosity = none)
    (h : g.takeItems (is.filter (· ≠ .flag)) = .ok g') {n : Nat} (hn : n ≤ 5) :
    (g.flagged n).takeItems is =
      if n + is.count .flag ≤ 5 then .ok (g'.flagged (n + is.count .flag))
      else .error tooLoud := by
  induction is generalizing g n with
  | nil =>
      obtain rfl := Except.ok.inj h
      rw [List.count_nil, Nat.add_zero, if_pos hn]
      rfl
  | cons i is ih =>
      rw [takeItems_cons]
      cases i with
      | option o v =>
          rw [List.filter_cons_of_pos (by simp), takeItems_cons] at h
          obtain ⟨g₁, hi, his⟩ := exists_of_bind_eq_ok h
          rw [takeItem_option] at hi
          obtain ⟨w, -, -, hstore⟩ := of_take hi
          have hg₁ : g₁.verbosity = none := (of_store hstore).2.2.trans hg
          have hcount : (Item.option o v :: is).count .flag = is.count .flag :=
            List.count_cons_of_ne (by simp)
          rw [takeItem_option, take_flagged, hi, hcount]
          exact ih hg₁ his hn
      | flag =>
          rw [List.filter_cons_of_neg (by simp)] at h
          rw [takeItem_flag, louder_flagged hg hn, List.count_cons_self]
          by_cases hfive : n + 1 ≤ 5
          · have hsum : n + 1 + is.count .flag = n + (is.count .flag + 1) := by omega
            rw [if_pos hfive, ← hsum]
            exact ih hg h hfive
          · rw [if_neg hfive, if_neg (by omega)]
            rfl

end Given

end ResultPages
