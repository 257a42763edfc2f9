/-
Trimming.

Trimming a text takes blanks away at its two ends, and nothing else: what is left has no blank
at either end, and there is only one way to come to it (`isTrimmed_iff`).
-/
import Mathlib.Data.List.TakeWhile
import ResultPages.Text.Blank

namespace ResultPages

lemma mem_dropWhile {p : Char → Bool} {c : Char} {cs : List Char} (hc : c ∈ cs) (hp : ¬ p c) :
    c ∈ cs.dropWhile p := by
  rw [← List.takeWhile_append_dropWhile (p := p) (l := cs), List.mem_append] at hc
  exact hc.resolve_left fun h => hp (List.mem_takeWhile_imp h)

lemma not_of_mem_head?_dropWhile {p : Char → Bool} {c : Char} {cs : List Char}
    (hc : c ∈ (cs.dropWhile p).head?) : ¬ p c := by
  have hhead := List.head?_dropWhile_not p cs
  rw [Option.mem_def.1 hc] at hhead
  exact Bool.not_eq_true _ ▸ hhead

lemma dropWhile_eq_self_of_head? {p : Char → Bool} {cs : List Char}
    (h : ∀ c ∈ cs.head?, ¬ p c) : cs.dropWhile p = cs := by
  cases cs with
  | nil => rfl
  | cons c cs => exact List.dropWhile_cons_of_neg (h c rfl)

/-- Trimming takes only blanks away. -/
lemma mem_trim {c : Char} {cs : List Char} (hc : c ∈ cs) (hblank : ¬ isBlank c) :
    c ∈ trim cs := by
  rw [trim, trimEnd, List.mem_reverse]
  exact mem_dropWhile (List.mem_reverse.2 (mem_dropWhile hc hblank)) hblank

/-- A text without blanks at its ends is left whole. -/
lemma trim_eq_self_of_ends {cs : List Char} (hhead : ∀ c ∈ cs.head?, ¬ isBlank c)
    (hlast : ∀ c ∈ cs.getLast?, ¬ isBlank c) : trim cs = cs := by
  rw [← List.head?_reverse] at hlast
  rw [trim, dropWhile_eq_self_of_head? hhead, trimEnd, dropWhile_eq_self_of_head? hlast,
    List.reverse_reverse]

lemma trim_eq_self {cs : List Char} (h : ∀ c ∈ cs, ¬ isBlank c) : trim cs = cs :=
  trim_eq_self_of_ends (fun c hc => h c (List.mem_of_mem_head? hc))
    fun c hc => h c (List.mem_of_mem_getLast? hc)

/-- Blanks around a text make no difference. -/
lemma trim_append {before after : List Char} (hbefore : ∀ c ∈ before, isBlank c) (cs : List Char)
    (hafter : ∀ c ∈ after, isBlank c) : trim (before ++ cs ++ after) = trim cs := by
  have hend : ∀ c ∈ after.reverse, isBlank c := fun c hc => hafter c (List.mem_reverse.1 hc)
  rw [trim, trim, List.append_assoc, List.dropWhile_append_of_pos hbefore, List.dropWhile_append]
  split
  · next hnil =>
    rw [List.dropWhile_eq_nil_iff.2 hafter, List.isEmpty_iff.1 hnil]
  · rw [trimEnd, List.reverse_append, List.dropWhile_append_of_pos hend, trimEnd]

/-- `IsTrimmed cs whole` says that `whole` is `cs` without the blanks at its two ends. -/
structure IsTrimmed (cs whole : List Char) : Prop where
  exists_blanks : ∃ before after, cs = before ++ whole ++ after ∧
    (∀ c ∈ before, isBlank c) ∧ ∀ c ∈ after, isBlank c
  head : ∀ c ∈ whole.head?, ¬ isBlank c
  last : ∀ c ∈ whole.getLast?, ¬ isBlank c

lemma isTrimmed_trim (cs : List Char) : IsTrimmed cs (trim cs) := by
  -- `left` is what remains once the blanks in front are gone
  let left := cs.dropWhile isBlank
  have htrim : left = trim cs ++ (left.reverse.takeWhile isBlank).reverse := by
    rw [trim, trimEnd, ← List.reverse_append, List.takeWhile_append_dropWhile,
      List.reverse_reverse]
  constructor
  · refine ⟨cs.takeWhile isBlank, (left.reverse.takeWhile isBlank).reverse, ?_,
      fun c hc => List.mem_takeWhile_imp hc,
      fun c hc => List.mem_takeWhile_imp (List.mem_reverse.1 hc)⟩
    rw [List.append_assoc, ← htrim, List.takeWhile_append_dropWhile]
  · intro c hc
    have hleft : c ∈ left.head? := by
      rw [htrim, List.head?_append, Option.mem_def.1 hc]
      rfl
    exact not_of_mem_head?_dropWhile hleft
  · intro c hc
    rw [trim, trimEnd, List.getLast?_reverse] at hc
    exact not_of_mem_head?_dropWhile hc

theorem isTrimmed_iff {cs whole : List Char} : IsTrimmed cs whole ↔ trim cs = whole := by
  constructor
  · rintro ⟨⟨before, after, rfl, hbefore, hafter⟩, hhead, hlast⟩
    rw [trim_append hbefore _ hafter, trim_eq_self_of_ends hhead hlast]
  · rintro rfl
    exact isTrimmed_trim cs

end ResultPages
