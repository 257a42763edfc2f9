/-
Which part of a host is its subdomain.

A host is cut into one label more than it holds dots.  So the first label is dropped exactly
if a second dot stands behind the first one, and what is left is all that stands behind the
first dot.
-/
import Mathlib.Tactic.Common
import ResultPages.Host.Subdomain

namespace ResultPages

/-- A host with a subdomain: its first label, and what stands behind the dot of that label,
which holds a dot again. -/
structure HasSubdomain (host first rest : List Char) : Prop where
  eq_append : host = first ++ '.' :: rest
  first_has_no_dot : '.' ∉ first
  rest_has_dot : '.' ∈ rest

lemma labels_append {first : List Char} (h : '.' ∉ first) (rest : List Char) :
    labels (first ++ '.' :: rest) = first :: labels rest := by
  rw [labels, pieces_append_cons, pieces_of_not_mem h]
  rfl

lemma length_labels (host : List Char) : (labels host).length = host.count '.' + 1 := by
  rw [labels]
  induction host with
  | nil => rfl
  | cons c host ih =>
      rw [pieces, List.count_cons]
      split
      · next hc => simp [hc, ih]
      · next hc =>
        cases hp : pieces '.' host with
        | nil => exact absurd hp (pieces_ne_nil '.' host)
        | cons p ps => simpa [hc, hp] using ih

lemma one_lt_length_labels_iff {host : List Char} : 1 < (labels host).length ↔ '.' ∈ host := by
  rw [length_labels, Nat.lt_add_left_iff_pos, List.count_pos_iff]

theorem two_lt_length_labels_iff {host : List Char} :
    2 < (labels host).length ↔ ∃ first rest, HasSubdomain host first rest := by
  constructor
  · intro h
    have hdot : '.' ∈ host := one_lt_length_labels_iff.1 (by omega)
    obtain ⟨first, rest, rfl, hfirst⟩ := List.eq_append_cons_of_mem hdot
    rw [labels_append hfirst, List.length_cons] at h
    exact ⟨first, rest, rfl, hfirst, one_lt_length_labels_iff.1 (by omega)⟩
  · rintro ⟨first, rest, rfl, hfirst, hrest⟩
    have := one_lt_length_labels_iff.2 hrest
    rw [labels_append hfirst, List.length_cons]
    omega

theorem dropSubdomain_of_hasSubdomain {host first rest : List Char}
    (h : HasSubdomain host first rest) : dropSubdomain host = rest := by
  rw [dropSubdomain, if_pos (two_lt_length_labels_iff.2 ⟨first, rest, h⟩), h.eq_append,
    cut_append_cons h.first_has_no_dot]
  rfl

/-- A host of one or two labels is left whole. -/
theorem dropSubdomain_eq_self {host : List Char}
    (h : ¬ ∃ first rest, HasSubdomain host first rest) : dropSubdomain host = host := by
  rw [dropSubdomain, if_neg fun hlen => h (two_lt_length_labels_iff.1 hlen)]

/-- Something is left of every host but the empty one. -/
lemma dropSubdomain_ne_nil {host : List Char} (h : host ≠ []) : dropSubdomain host ≠ [] := by
  by_cases hsub : ∃ first rest, HasSubdomain host first rest
  · obtain ⟨first, rest, hsub⟩ := hsub
    rw [dropSubdomain_of_hasSubdomain hsub]
    exact List.ne_nil_of_mem hsub.rest_has_dot
  · rwa [dropSubdomain_eq_self hsub]

lemma dropSubdomain_suffix (host : List Char) : dropSubdomain host <:+ host := by
  by_cases hsub : ∃ first rest, HasSubdomain host first rest
  · obtain ⟨first, rest, hsub⟩ := hsub
    rw [dropSubdomain_of_hasSubdomain hsub, hsub.eq_append]
    exact ⟨first ++ ['.'], by simp⟩
  · exact ⟨[], dropSubdomain_eq_self hsub⟩

/-- The labels that are left of a host. -/
def keptLabels (ls : List (List Char)) : List (List Char) := if 2 < ls.length then ls.tail else ls

lemma keptLabels_of_length_le {ls : List (List Char)} (h : ls.length ≤ 2) : keptLabels ls = ls :=
  if_neg (Nat.not_lt.2 h)

/-- Of labels joined by dots the first one is dropped, if there are more than two. -/
theorem dropSubdomain_join {ls : List (List Char)} (hne : ls ≠ []) (hdot : ∀ l ∈ ls, '.' ∉ l) :
    dropSubdomain (join '.' ls) = join '.' (keptLabels ls) := by
  match ls with
  | first :: second :: third :: rest =>
      have hsub : HasSubdomain (join '.' (first :: second :: third :: rest)) first
          (join '.' (second :: third :: rest)) := by
        refine ⟨rfl, hdot first List.mem_cons_self, ?_⟩
        exact mem_join_iff.2 (Or.inl ⟨rfl, by simp⟩)
      rw [dropSubdomain_of_hasSubdomain hsub, keptLabels, if_pos (by simp), List.tail_cons]
  | [first] | [first, second] =>
      rw [keptLabels_of_length_le (by simp)]
      refine dropSubdomain_eq_self fun hsub => ?_
      have hlength := two_lt_length_labels_iff.2 hsub
      rw [labels, pieces_join hne hdot] at hlength
      simp at hlength

/-- What stands behind the last label and holds no dot stays there. -/
theorem dropSubdomain_append (host : List Char) {tail : List Char} (h : '.' ∉ tail) :
    dropSubdomain (host ++ tail) = dropSubdomain host ++ tail := by
  by_cases hsub : ∃ first rest, HasSubdomain host first rest
  · obtain ⟨first, rest, hsub⟩ := hsub
    rw [dropSubdomain_of_hasSubdomain hsub]
    have hsub' : HasSubdomain (host ++ tail) first (rest ++ tail) := by
      refine ⟨?_, hsub.first_has_no_dot, List.mem_append_left _ hsub.rest_has_dot⟩
      rw [hsub.eq_append, List.append_assoc, List.cons_append]
    exact dropSubdomain_of_hasSubdomain hsub'
  · have hlength : (labels (host ++ tail)).length = (labels host).length := by
      rw [length_labels, length_labels, List.count_append, List.count_eq_zero.2 h, Nat.add_zero]
    rw [dropSubdomain_eq_self hsub, dropSubdomain_eq_self]
    rwa [← two_lt_length_labels_iff, hlength, two_lt_length_labels_iff]

end ResultPages
