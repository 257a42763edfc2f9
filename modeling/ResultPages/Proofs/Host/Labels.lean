/-
What is left of a host whose subdomain is dropped again and again.

Dropping the subdomain takes the first label of a host away as long as more than two are there
(`labels_dropSubdomain`).  So one label goes in each step, always at the front, until two are left:
after `k` steps the last labels of the host are there, as many as it had less `k`, but never fewer
than two unless there were fewer from the start (`labels_iterate`).
-/
import Mathlib.Data.List.DropRight
import Mathlib.Logic.Function.Iterate
import ResultPages.Proofs.Host.Subdomain

namespace ResultPages

/-! ### One step -/

/-- What is left has the labels that are left. -/
theorem labels_dropSubdomain (host : List Char) :
    labels (dropSubdomain host) = keptLabels (labels host) := by
  by_cases hsub : ∃ first rest, HasSubdomain host first rest
  · rw [keptLabels, if_pos (two_lt_length_labels_iff.2 hsub)]
    obtain ⟨first, rest, hsub⟩ := hsub
    rw [dropSubdomain_of_hasSubdomain hsub, hsub.eq_append, labels_append hsub.first_has_no_dot,
      List.tail_cons]
  · rw [keptLabels, if_neg fun hlength => hsub (two_lt_length_labels_iff.1 hlength),
      dropSubdomain_eq_self hsub]

/-- The last label stays. -/
lemma getLast?_labels_dropSubdomain (host : List Char) :
    (labels (dropSubdomain host)).getLast? = (labels host).getLast? := by
  rw [labels_dropSubdomain, keptLabels]
  split
  · rw [List.getLast?_tail, if_neg (by omega)]
  · rfl

/-- A host is left whole exactly if it has at most two labels. -/
theorem dropSubdomain_eq_self_iff {host : List Char} :
    dropSubdomain host = host ↔ (labels host).length ≤ 2 := by
  constructor
  · intro h
    have hlength := congrArg List.length (labels_dropSubdomain host)
    rw [h, keptLabels] at hlength
    split at hlength
    · rw [List.length_tail] at hlength
      omega
    · omega
  · intro h
    exact dropSubdomain_eq_self fun hsub => absurd (two_lt_length_labels_iff.2 hsub) (by omega)

/-- The last of some texts that are joined stands at the end. -/
lemma getLast_suffix_join {α : Type} {sep : α} {ps : List (List α)} (h : ps ≠ []) :
    ps.getLast h <:+ join sep ps := by
  match ps with
  | [p] => exact List.suffix_rfl
  | p :: q :: ps =>
      have ih : (q :: ps).getLast (List.cons_ne_nil q ps) <:+ join sep (q :: ps) :=
        getLast_suffix_join (List.cons_ne_nil q ps)
      rw [List.getLast_cons (List.cons_ne_nil q ps), join]
      exact ih.trans ((List.suffix_cons sep _).trans (List.suffix_append p _))

lemma labels_ne_nil (host : List Char) : labels host ≠ [] := pieces_ne_nil '.' host

/-- The last label of a host stands at its end. -/
lemma getLast_labels_suffix (host : List Char) :
    (labels host).getLast (labels_ne_nil host) <:+ host := by
  have hlast : (labels host).getLast (labels_ne_nil host) <:+ join '.' (labels host) :=
    getLast_suffix_join (labels_ne_nil host)
  have hwhole : join '.' (labels host) = host := join_pieces '.' host
  rwa [hwhole] at hlast

/-! ### Many steps -/

/-- Of the last `m` labels the first one goes, if there are more than two. -/
lemma keptLabels_rtake {ls : List (List Char)} {m : Nat} (h : m ≤ ls.length) :
    keptLabels (ls.rtake m) = ls.rtake (if 2 < m then m - 1 else m) := by
  have hlength : (ls.rtake m).length = m := by
    rw [List.rtake, List.length_drop]
    omega
  rw [keptLabels, hlength]
  split
  · rw [List.rtake, List.rtake, List.tail_drop]
    congr 1
    omega
  · rfl

/-- The labels that are left after `k` steps. -/
theorem labels_iterate (host : List Char) (k : Nat) :
    labels (dropSubdomain^[k] host) =
      (labels host).rtake (max (min (labels host).length 2) ((labels host).length - k)) := by
  induction k with
  | zero =>
      rw [Nat.sub_zero, Nat.max_eq_right (Nat.min_le_left _ _), List.rtake, Nat.sub_self]
      rfl
  | succ k ih =>
      rw [Function.iterate_succ_apply', labels_dropSubdomain, ih, keptLabels_rtake (by omega)]
      congr 1
      split <;> omega

lemma length_labels_iterate (host : List Char) (k : Nat) :
    (labels (dropSubdomain^[k] host)).length =
      max (min (labels host).length 2) ((labels host).length - k) := by
  rw [labels_iterate, List.rtake, List.length_drop]
  omega

/-- Dropping the subdomain takes the first label away if there are more than two, and keeps the
rest with the last label as it is.  Many steps leave the last labels, and come to an end exactly
when at most two are left. -/
theorem dropSubdomain_leaves_last_labels (host : List Char) :
    (2 < (labels host).length → labels (dropSubdomain host) = (labels host).tail) ∧
    ((labels host).length ≤ 2 → dropSubdomain host = host) ∧
    dropSubdomain host <:+ host ∧
    (∃ last, (labels host).getLast? = some last ∧
      (labels (dropSubdomain host)).getLast? = some last ∧ last <:+ dropSubdomain host) ∧
    ∀ k, labels (dropSubdomain^[k] host) =
        (labels host).rtake (max (min (labels host).length 2) ((labels host).length - k)) ∧
      (dropSubdomain (dropSubdomain^[k] host) = dropSubdomain^[k] host ↔
        (labels host).length - 2 ≤ k) ∧
      ((labels host).length - 2 ≤ k → (labels (dropSubdomain^[k] host)).length ≤ 2) ∧
      (2 ≤ (labels host).length → 2 ≤ (labels (dropSubdomain^[k] host)).length) := by
  refine ⟨fun h => ?_, dropSubdomain_eq_self_iff.2, dropSubdomain_suffix host, ?_, fun k => ?_⟩
  · rw [labels_dropSubdomain, keptLabels, if_pos h]
  · have hlast := List.getLast?_eq_some_getLast (labels_ne_nil (dropSubdomain host))
    rw [getLast?_labels_dropSubdomain] at hlast ⊢
    exact ⟨_, hlast, hlast, getLast_labels_suffix (dropSubdomain host)⟩
  · have hlength := length_labels_iterate host k
    rw [dropSubdomain_eq_self_iff, hlength]
    refine ⟨labels_iterate host k, ?_, ?_, ?_⟩ <;> omega

example : dropSubdomain^[2] "a.b.example.com:8443".toList = "example.com:8443".toList := by decide

end ResultPages
