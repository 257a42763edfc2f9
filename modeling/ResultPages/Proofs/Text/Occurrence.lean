/-
Counting places across the seams of a text that is put together from parts.

A word may stand in `xs ++ ys` across the seam although it stands in neither part.  That is
excluded if `xs` *avoids* the word: at no place of `xs` does the word stand, and no end of `xs`
is a beginning of the word.  What follows then counts as if it stood alone
(`occurrences_append_of_avoids`), whatever it is.
-/
import Mathlib.Tactic.Common
import ResultPages.Text.Occurrence

namespace ResultPages

/-- Whether a word neither stands in a text nor begins in it and goes on behind it. -/
def avoids (word : List Char) : List Char → Bool
  | [] => true
  | c :: cs =>
    !(c :: cs).isPrefixOf word && !word.isPrefixOf (c :: cs) && avoids word cs

variable {word xs ys : List Char}

/-- A word stands somewhere in a text if it is a stretch of it. -/
lemma occursIn_iff_isInfix : occursIn word xs ↔ word <:+: xs := by
  rw [occursIn, decide_eq_true_iff]
  induction xs with
  | nil => by_cases hword : word = [] <;> simp [occurrences, hword]
  | cons c cs ih =>
      rw [occurrences, List.infix_cons_iff, ← List.isPrefixOf_iff_prefix, ← ih]
      by_cases hhere : word.isPrefixOf (c :: cs)
      · rw [if_pos hhere]
        exact iff_of_true (by omega) (Or.inl hhere)
      · rw [if_neg hhere, Nat.zero_add]
        exact (or_iff_right hhere).symm

lemma avoids_cons {c : Char} {cs : List Char} :
    avoids word (c :: cs) ↔ ¬ c :: cs <+: word ∧ ¬ word <+: c :: cs ∧ avoids word cs := by
  simp [avoids, and_assoc, ← List.isPrefixOf_iff_prefix]

/-- A text that the word does not even begin in avoids it, whatever stands behind. -/
lemma not_isPrefixOf_append_of_avoids {c : Char} {cs : List Char} (h : avoids word (c :: cs))
    (ys : List Char) : ¬ word <+: c :: cs ++ ys := by
  obtain ⟨hend, hwhole, -⟩ := avoids_cons.1 h
  intro hword
  rcases List.prefix_or_prefix_of_prefix hword (List.prefix_append (c :: cs) ys) with h | h
  · exact hwhole h
  · exact hend h

/-- Parts that avoid a word avoid it together. -/
lemma avoids_append (hx : avoids word xs) (hy : avoids word ys) : avoids word (xs ++ ys) := by
  induction xs with
  | nil => exact hy
  | cons c cs ih =>
      obtain ⟨hend, -, hcs⟩ := avoids_cons.1 hx
      refine avoids_cons.2 ⟨fun h => hend ?_, not_isPrefixOf_append_of_avoids hx ys, ih hcs⟩
      exact (List.prefix_append (c :: cs) ys).trans h

lemma avoids_flatten {parts : List (List Char)} (h : parts.all (avoids word)) :
    avoids word parts.flatten := by
  induction parts with
  | nil => rfl
  | cons part parts ih =>
      rw [List.all_cons, Bool.and_eq_true] at h
      exact avoids_append h.1 (ih h.2)

/-- A text without the first character of a word avoids the word. -/
lemma avoids_of_not_mem {a : Char} {as : List Char} (h : a ∉ xs) : avoids (a :: as) xs := by
  induction xs with
  | nil => rfl
  | cons c cs ih =>
      have hc : c ≠ a := fun e => h (e ▸ List.mem_cons_self)
      refine avoids_cons.2 ⟨?_, ?_, ih fun hm => h (List.mem_cons_of_mem _ hm)⟩
      · rw [List.cons_prefix_cons]
        exact fun he => hc he.1
      · rw [List.cons_prefix_cons]
        exact fun he => hc he.1.symm

lemma occurrences_cons_of_not_prefix {c : Char} {cs : List Char} (h : ¬ word <+: c :: cs) :
    occurrences word (c :: cs) = occurrences word cs := by
  rw [occurrences, if_neg (by rwa [List.isPrefixOf_iff_prefix]), Nat.zero_add]

/-- What avoids a word adds no place of the word. -/
theorem occurrences_append_of_avoids (h : avoids word xs) (ys : List Char) :
    occurrences word (xs ++ ys) = occurrences word ys := by
  induction xs with
  | nil => rfl
  | cons c cs ih =>
      have hc : ¬ word <+: c :: (cs ++ ys) := not_isPrefixOf_append_of_avoids h ys
      rw [List.cons_append, occurrences_cons_of_not_prefix hc, ih (avoids_cons.1 h).2.2]

lemma occurrences_of_avoids (hword : word ≠ []) (h : avoids word xs) :
    occurrences word xs = 0 := by
  have h := occurrences_append_of_avoids h []
  rw [List.append_nil] at h
  rw [h, occurrences, if_neg hword]

/-- A word whose first character comes once stands once between texts that avoid it. -/
theorem occurrences_eq_one {a : Char} {as : List Char} (ha : a ∉ as)
    (hx : avoids (a :: as) xs) (hy : avoids (a :: as) ys) :
    occurrences (a :: as) (xs ++ (a :: as ++ ys)) = 1 := by
  have hrest : occurrences (a :: as) (as ++ ys) = 0 :=
    occurrences_of_avoids (by simp) (avoids_append (avoids_of_not_mem ha) hy)
  have hhere : (a :: as).isPrefixOf (a :: (as ++ ys)) := by
    rw [List.isPrefixOf_iff_prefix]
    exact List.prefix_append (a :: as) ys
  rw [occurrences_append_of_avoids hx, List.cons_append, occurrences, if_pos hhere, hrest]

end ResultPages
