/-
What escaped text cannot hold, and how the text of an element is read.

Escaping writes character by character, so an escaped text is a sequence of entities and of
characters that need none.  Hence neither an angle bracket nor a quote stands in it, and an
ampersand only at the beginning of an entity.  Since `Markup.unescape` undoes it, escaping
is injective.

`Markup.textBehind?` finds the first place of a tag and takes the text from there to the next
`<`; escaped text behind a tag is taken whole, because it holds no `<` itself.
-/
import Mathlib.Tactic.Common
import ResultPages.Page.Markup
import ResultPages.Proofs.Text.Occurrence

namespace ResultPages

namespace Markup

/-- The five entities. -/
def entities : List (List Char) :=
  ["&amp;".toList, "&lt;".toList, "&gt;".toList, "&quot;".toList, "&#x27;".toList]

/-! ### Escaped characters -/

/-- A character is written as an entity, or as itself if it means nothing in markup. -/
lemma escapeChar_cases (c : Char) :
    escapeChar c ∈ entities ∨
      (escapeChar c = [c] ∧ c ≠ '&' ∧ c ≠ '<' ∧ c ≠ '>' ∧ c ≠ '"' ∧ c ≠ '\'') := by
  unfold escapeChar entity?
  split
  case h_6 h₁ h₂ h₃ h₄ h₅ => exact Or.inr ⟨rfl, h₁, h₂, h₃, h₄, h₅⟩
  all_goals exact Or.inl (by simp [entities])

/-- An entity begins with an ampersand and holds no other and no markup. -/
lemma exists_of_mem_entities {e : List Char} (h : e ∈ entities) :
    ∃ w, e = '&' :: w ∧ ∀ c ∈ ['&', '<', '>', '"', '\''], c ∉ w := by
  simp only [entities, List.mem_cons, List.not_mem_nil, or_false] at h
  rcases h with rfl | rfl | rfl | rfl | rfl <;> exact ⟨_, String.toList_ofList, by simp⟩

/-! ### Escaped texts -/

@[simp] lemma escape_nil : escape [] = [] := rfl

@[simp] lemma escape_cons (c : Char) (cs : List Char) :
    escape (c :: cs) = escapeChar c ++ escape cs := rfl

theorem escape_injective : Function.Injective escape :=
  Function.LeftInverse.injective unescape_escape

/-- No angle bracket and no quote stands in an escaped text. -/
theorem not_mem_escape {c : Char} (hc : c ∈ ['<', '>', '"', '\'']) (cs : List Char) :
    c ∉ escape cs := by
  induction cs with
  | nil => simp
  | cons d cs ih =>
      rw [escape_cons, List.mem_append, not_or]
      refine ⟨?_, ih⟩
      rcases escapeChar_cases d with hd | ⟨hd, -, hd'⟩
      · obtain ⟨w, hw, hnot⟩ := exists_of_mem_entities hd
        rw [hw, List.mem_cons, not_or]
        refine ⟨?_, hnot c (List.mem_cons_of_mem _ hc)⟩
        rintro rfl
        simp at hc
      · rw [hd, List.mem_singleton]
        rintro rfl
        simp only [List.mem_cons, List.not_mem_nil, or_false] at hc
        tauto

/-- An ampersand in an escaped text begins one of the entities. -/
theorem entity_of_escape_eq {cs before after : List Char}
    (h : escape cs = before ++ '&' :: after) : ∃ e ∈ entities, e <+: '&' :: after := by
  induction cs generalizing before with
  | nil => simp at h
  | cons c cs ih =>
      rw [escape_cons, List.append_eq_append_iff] at h
      rcases h with ⟨before', -, h⟩ | ⟨head, hc, h⟩
      · exact ih h
      · -- the ampersand stands in what is written for `c`, or right behind it
        cases head with
        | nil =>
            have hhead : escape cs = [] ++ '&' :: after := by simpa using h.symm
            exact ih hhead
        | cons a head =>
            obtain ⟨rfl, rfl⟩ : '&' = a ∧ after = head ++ escape cs := by simpa using h
            rcases escapeChar_cases c with hd | ⟨hd, hamp, -⟩
            · obtain ⟨w, hw, hnot⟩ := exists_of_mem_entities hd
              cases before with
              | nil =>
                  refine ⟨escapeChar c, hd, ?_⟩
                  rw [hc, List.nil_append]
                  exact List.prefix_append _ _
              | cons b before =>
                  rw [hw, List.cons_append, List.cons.injEq] at hc
                  refine absurd ?_ (hnot '&' (by simp))
                  simp [hc.2]
            · have hmem : '&' ∈ escapeChar c := by simp [hc]
              rw [hd, List.mem_singleton] at hmem
              exact absurd hmem.symm hamp

/-! ### The text of an element -/

/-- The text between the first place of a tag and the next angle bracket behind it. -/
def textBehind? (tag : List Char) : List Char → Option (List Char)
  | [] => none
  | c :: cs =>
    if tag.isPrefixOf (c :: cs) then some (((c :: cs).drop tag.length).takeWhile (· ≠ '<'))
    else textBehind? tag cs

lemma textBehind?_append_of_avoids {tag xs : List Char} (h : avoids tag xs) (ys : List Char) :
    textBehind? tag (xs ++ ys) = textBehind? tag ys := by
  induction xs with
  | nil => rfl
  | cons c cs ih =>
      have hc : ¬ tag <+: c :: (cs ++ ys) := not_isPrefixOf_append_of_avoids h ys
      rw [List.cons_append, textBehind?, if_neg (by rwa [List.isPrefixOf_iff_prefix]),
        ih (avoids_cons.1 h).2.2]

/-- The text behind the first place of a tag reaches to the next angle bracket. -/
theorem textBehind?_append {a : Char} {as before text after : List Char}
    (hbefore : avoids (a :: as) before) (htext : '<' ∉ text) (hafter : after.head? = some '<') :
    textBehind? (a :: as) (before ++ (a :: as ++ (text ++ after))) = some text := by
  obtain ⟨rest, rfl⟩ : ∃ rest, after = '<' :: rest := List.head?_eq_some_iff.1 hafter
  have hhere : (a :: as).isPrefixOf (a :: (as ++ (text ++ '<' :: rest))) := by
    rw [List.isPrefixOf_iff_prefix]
    exact List.prefix_append (a :: as) _
  have hstop : ∀ c ∈ text, decide (c ≠ '<') := by
    intro c hc
    exact decide_eq_true fun e => htext (e ▸ hc)
  rw [textBehind?_append_of_avoids hbefore, List.cons_append, textBehind?, if_pos hhere,
    ← List.cons_append, List.drop_left, List.takeWhile_append_of_pos hstop]
  simp

end Markup

end ResultPages
