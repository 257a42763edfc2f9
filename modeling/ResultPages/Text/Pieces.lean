/-
Cutting a list at a separator.

`pieces` cuts at every separator and keeps empty pieces, `cut` only at the first one.
Joining the pieces with the separator gives the list back (`join_pieces`), and no piece
holds the separator (`not_mem_of_mem_pieces`), so the pieces are the fields of the list.
Lists put together with a separator have the pieces of both (`pieces_append_cons`).  A cut at
the first separator puts the list back together as well (`cut_spec`).
-/

namespace ResultPages

variable {α : Type} [DecidableEq α]

/-- The pieces between the occurrences of `sep`, one more than there are occurrences. -/
def pieces (sep : α) : List α → List (List α)
  | [] => [[]]
  | x :: xs =>
    if x = sep then [] :: pieces sep xs
    else
      match pieces sep xs with
      | [] => [[x]]
      | p :: ps => (x :: p) :: ps

/-- The pieces with the separator put between them. -/
def join (sep : α) : List (List α) → List α
  | [] => []
  | [p] => p
  | p :: q :: ps => p ++ sep :: join sep (q :: ps)

/-- What stands before the first `sep`, and what stands after it if there is one. -/
def cut (sep : α) : List α → List α × Option (List α)
  | [] => ([], none)
  | x :: xs => if x = sep then ([], some xs) else ((cut sep xs).1.cons x, (cut sep xs).2)

/-! ### The fields of a list -/

theorem pieces_ne_nil (sep : α) (xs : List α) : pieces sep xs ≠ [] := by
  cases xs with
  | nil => simp [pieces]
  | cons x xs =>
    rw [pieces]
    split
    · simp
    · split <;> simp

theorem join_pieces (sep : α) (xs : List α) : join sep (pieces sep xs) = xs := by
  induction xs with
  | nil => rfl
  | cons x xs ih =>
    rw [pieces]
    split
    · next h =>
      cases hp : pieces sep xs with
      | nil => exact absurd hp (pieces_ne_nil sep xs)
      | cons p ps => rw [hp] at ih; simp [join, ih, h]
    · split
      · next hp => exact absurd hp (pieces_ne_nil sep xs)
      · next p ps hp =>
        rw [hp] at ih
        cases ps with
        | nil => simpa [join] using ih
        | cons q qs => simpa [join] using ih

theorem not_mem_of_mem_pieces {sep : α} {xs p : List α} (h : p ∈ pieces sep xs) :
    sep ∉ p := by
  induction xs generalizing p with
  | nil => simp_all [pieces]
  | cons x xs ih =>
    rw [pieces] at h
    split at h
    · rcases List.mem_cons.1 h with rfl | h
      · simp
      · exact ih h
    · next hx =>
      split at h
      · next hp => exact absurd hp (pieces_ne_nil sep xs)
      · next q qs hp =>
        rcases List.mem_cons.1 h with rfl | h
        · simp only [List.mem_cons, not_or]
          exact ⟨fun h => hx h.symm, ih (hp ▸ List.mem_cons_self)⟩
        · exact ih (hp ▸ List.mem_cons_of_mem _ h)

theorem mem_join_iff {β : Type} {sep x : β} {ps : List (List β)} :
    x ∈ join sep ps ↔ (x = sep ∧ 1 < ps.length) ∨ ∃ p ∈ ps, x ∈ p := by
  match ps with
  | [] => simp [join]
  | [p] => simp [join]
  | p :: q :: ps =>
    have ih : x ∈ join sep (q :: ps) ↔
        (x = sep ∧ 1 < (q :: ps).length) ∨ ∃ p ∈ q :: ps, x ∈ p := mem_join_iff
    rw [join, List.mem_append, List.mem_cons, ih]
    simp only [List.mem_cons, List.length_cons, exists_eq_or_imp]
    constructor
    · rintro (h | rfl | ⟨rfl, -⟩ | h)
      · exact Or.inr (Or.inl h)
      · exact Or.inl ⟨rfl, by omega⟩
      · exact Or.inl ⟨rfl, by omega⟩
      · exact Or.inr (Or.inr h)
    · rintro (⟨rfl, -⟩ | h | h)
      · exact Or.inr (Or.inl rfl)
      · exact Or.inl h
      · exact Or.inr (Or.inr (Or.inr h))

/-- Nothing stands in a piece that does not stand in the list. -/
theorem mem_of_mem_piece {sep x : α} {xs p : List α} (hp : p ∈ pieces sep xs) (hx : x ∈ p) :
    x ∈ xs := by
  rw [← join_pieces sep xs, mem_join_iff]
  exact Or.inr ⟨p, hp, hx⟩

/-! ### Lists put together -/

theorem pieces_of_not_mem {sep : α} {xs : List α} (h : sep ∉ xs) : pieces sep xs = [xs] := by
  induction xs with
  | nil => rfl
  | cons x xs ih =>
    have hx : x ≠ sep := fun e => h (e ▸ List.mem_cons_self)
    rw [pieces, if_neg hx, ih fun hm => h (List.mem_cons_of_mem _ hm)]

/-- A separator between two lists separates their pieces. -/
theorem pieces_append_cons (sep : α) (xs ys : List α) :
    pieces sep (xs ++ sep :: ys) = pieces sep xs ++ pieces sep ys := by
  induction xs with
  | nil => simp [pieces]
  | cons x xs ih =>
    rw [List.cons_append, pieces, pieces, ih]
    split
    · rfl
    · cases hp : pieces sep xs with
      | nil => exact absurd hp (pieces_ne_nil sep xs)
      | cons p ps => rfl

/-- Lists without the separator are the pieces of what they are joined to. -/
theorem pieces_join {sep : α} {ps : List (List α)} (hne : ps ≠ []) (h : ∀ p ∈ ps, sep ∉ p) :
    pieces sep (join sep ps) = ps := by
  induction ps with
  | nil => exact absurd rfl hne
  | cons p ps ih =>
    have hp : pieces sep p = [p] := pieces_of_not_mem (h p List.mem_cons_self)
    cases ps with
    | nil => exact hp
    | cons q qs =>
      have hq := ih (by simp) fun r hr => h r (List.mem_cons_of_mem _ hr)
      rw [join, pieces_append_cons, hp, hq, List.singleton_append]

/-- The pieces of a list are the lists without the separator that it joins. -/
theorem pieces_eq_iff {sep : α} {xs : List α} {ps : List (List α)} (hne : ps ≠ []) :
    pieces sep xs = ps ↔ xs = join sep ps ∧ ∀ p ∈ ps, sep ∉ p := by
  constructor
  · rintro rfl
    exact ⟨(join_pieces sep xs).symm, fun p hp => not_mem_of_mem_pieces hp⟩
  · rintro ⟨rfl, h⟩
    exact pieces_join hne h

theorem cut_of_not_mem {sep : α} {xs : List α} (h : sep ∉ xs) : cut sep xs = (xs, none) := by
  induction xs with
  | nil => rfl
  | cons x xs ih =>
    have hx : x ≠ sep := fun e => h (e ▸ List.mem_cons_self)
    rw [cut, if_neg hx, ih fun hm => h (List.mem_cons_of_mem _ hm)]

theorem cut_append_cons {sep : α} {xs : List α} (h : sep ∉ xs) (ys : List α) :
    cut sep (xs ++ sep :: ys) = (xs, some ys) := by
  induction xs with
  | nil => simp [cut]
  | cons x xs ih =>
    have hx : x ≠ sep := fun e => h (e ▸ List.mem_cons_self)
    rw [List.cons_append, cut, if_neg hx, ih fun hm => h (List.mem_cons_of_mem _ hm)]

/-- A cut puts the list back together, and cuts at the first separator. -/
theorem cut_spec (sep : α) (xs : List α) :
    sep ∉ (cut sep xs).1 ∧
      xs = (cut sep xs).1 ++ ((cut sep xs).2.map (sep :: ·)).getD [] := by
  induction xs with
  | nil => simp [cut]
  | cons x xs ih =>
    rw [cut]
    split
    · next hx => simp [hx]
    · next hx =>
      refine ⟨?_, congrArg (x :: ·) ih.2⟩
      rw [List.mem_cons, not_or]
      exact ⟨fun h => hx h.symm, ih.1⟩

end ResultPages
