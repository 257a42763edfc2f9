/-
Queries put together with `&`.

A query is read piece by piece, and nothing is read across the `&` between two pieces, whatever
octets stand on its two sides.  So the pairs of two queries put together are the pairs of both
(`pairs_append`), and what they ask for is found in the first query, or else in the second one
(`status?_append`, `status?_join`).

Pieces whose key does not spell `status` ask for nothing.  They can be put in and left out
anywhere, and so they can be moved (`Rearranged`).  What stands behind the first piece with the
key `status` does not matter.
-/
import ResultPages.Proofs.Query.Octets

namespace ResultPages

namespace Query

/-! ### Two queries -/

/-- The pairs of both queries, in their order. -/
theorem pairs_append (xs ys : Octets) :
    pairs (xs ++ '&'.toUInt8 :: ys) = pairs xs ++ pairs ys := by
  simp only [pairs, pieces_append_cons, List.filter_append, List.map_append]

/-- The pairs of all texts between the separators, in their order. -/
theorem pairs_join (ps : List Octets) : pairs (join '&'.toUInt8 ps) = ps.flatMap pairs := by
  match ps with
  | [] => rfl
  | [p] => rw [join, List.flatMap_singleton]
  | p :: q :: ps =>
      have ih := pairs_join (q :: ps)
      rw [join, pairs_append, ih]
      rfl

/-- The first query decides if it asks for a status at all. -/
theorem status?_append (xs ys : Octets) :
    status? (xs ++ '&'.toUInt8 :: ys) = (status? xs).or (status? ys) := by
  rw [status?, first?, pairs_append, List.find?_append, Option.map_or]
  rfl

/-- Of several texts between the separators the first one that asks for a status decides. -/
theorem status?_join (ps : List Octets) :
    status? (join '&'.toUInt8 ps) = ps.findSome? status? := by
  match ps with
  | [] => rfl
  | [p] => rw [join, List.findSome?_singleton]
  | p :: q :: ps =>
      have ih := status?_join (q :: ps)
      have hcons : (p :: q :: ps).findSome? status? =
          (status? p).or ((q :: ps).findSome? status?) := by
        rw [← List.singleton_append, List.findSome?_append, List.findSome?_singleton]
      rw [join, status?_append, ih, hcons]

/-! ### Single pieces -/

/-- A piece whose key does not spell `status`. -/
structure IsOther (piece : Octets) : Prop where
  amp_not_mem : '&'.toUInt8 ∉ piece
  not_status : ∀ value, ¬ IsStatus piece value

lemma status?_of_piece {piece : Octets} (h : '&'.toUInt8 ∉ piece) :
    status? piece = if hasStatusKey piece then some (readPart (keyValue piece).2) else none := by
  rw [status?_eq_map, pieces_of_not_mem h, List.find?_singleton]
  cases hasStatusKey piece <;> rfl

lemma IsOther.status?_eq_none {piece : Octets} (h : IsOther piece) : status? piece = none := by
  rw [status?_of_piece h.amp_not_mem, if_neg (not_isStatus_iff.1 h.not_status)]

lemma IsStatus.status?_eq_some {piece value : Octets} (h : IsStatus piece value)
    (hamp : '&'.toUInt8 ∉ piece) : status? piece = some (readPart value) := by
  obtain ⟨hkey, rfl⟩ := isStatus_iff.1 h
  rw [status?_of_piece hamp, if_pos hkey]

/-! ### Pieces that are put in and left out -/

/-- Texts between the separators with some pieces more, or less, whose key does not spell
`status`. -/
inductive Rearranged (ps : List Octets) : List Octets → Prop where
  | same : Rearranged ps ps
  /-- A piece is put in. -/
  | insert {before after : List Octets} {piece : Octets} : IsOther piece →
      Rearranged ps (before ++ after) → Rearranged ps (before ++ piece :: after)
  /-- A piece is left out. -/
  | delete {before after : List Octets} {piece : Octets} : IsOther piece →
      Rearranged ps (before ++ piece :: after) → Rearranged ps (before ++ after)

namespace Rearranged

variable {ps : List Octets} {piece : Octets}

/-- A piece is moved to another place. -/
lemma move {before after before' after' : List Octets} (hpiece : IsOther piece)
    (h : Rearranged ps (before ++ piece :: after)) (hrest : before ++ after = before' ++ after') :
    Rearranged ps (before' ++ piece :: after') :=
  insert hpiece (hrest ▸ delete hpiece h)

lemma findSome?_append_cons {before after : List Octets} (hpiece : IsOther piece) :
    (before ++ piece :: after).findSome? status? = (before ++ after).findSome? status? := by
  rw [List.findSome?_append, List.findSome?_append, List.findSome?_cons, hpiece.status?_eq_none]

/-- They ask for the same status. -/
theorem findSome?_eq {qs : List Octets} (h : Rearranged ps qs) :
    qs.findSome? status? = ps.findSome? status? := by
  induction h with
  | same => rfl
  | insert hpiece _ ih => rw [findSome?_append_cons hpiece, ih]
  | delete hpiece _ ih => rw [← findSome?_append_cons hpiece, ih]

end Rearranged

/-! ### The piece that decides -/

/-- The first piece with the key `status` decides.  It is looked for in the first of two queries
and then in the second one; other pieces do not matter, wherever they stand, and neither does
anything behind the piece that decides. -/
theorem status?_by_pieces :
    (∀ xs ys : Octets, status? (xs ++ '&'.toUInt8 :: ys) = (status? xs).or (status? ys)) ∧
    (∀ ps qs : List Octets, Rearranged ps qs →
      status? (join '&'.toUInt8 qs) = status? (join '&'.toUInt8 ps)) ∧
    (∀ (before after : List Octets) (piece value : Octets), (∀ p ∈ before, IsOther p) →
      '&'.toUInt8 ∉ piece → IsStatus piece value →
        status? (join '&'.toUInt8 (before ++ piece :: after)) = some (readPart value)) := by
  refine ⟨status?_append, ?_, ?_⟩
  · intro ps qs h
    rw [status?_join, status?_join, h.findSome?_eq]
  · intro before after piece value hbefore hamp hpiece
    have hnone : before.findSome? status? = none :=
      List.findSome?_eq_none_iff.2 fun p hp => (hbefore p hp).status?_eq_none
    rw [status?_join, List.findSome?_append, hnone, Option.none_or, List.findSome?_cons,
      hpiece.status?_eq_some hamp]

/-- A key with a broken escape at its end, in front of the piece that decides and moved behind
it. -/
theorem status?_of_broken_key :
    let broken := Octets.ofString "status%3"
    let deciding := Octets.ofString "sta%74us=up%2"
    let last := Octets.ofString "b"
    IsOther broken ∧ IsStatus deciding (Octets.ofString "up%2") ∧
      Rearranged [broken, deciding, last] [deciding, last, broken] ∧
      status? (join '&'.toUInt8 [deciding, last, broken]) =
        status? (join '&'.toUInt8 [broken, deciding, last]) ∧
      status? (join '&'.toUInt8 [broken, deciding, last]) = some "up%2" := by
  intro broken deciding last
  have hbroken : IsOther broken := ⟨by decide +kernel, not_isStatus_iff.2 (by decide +kernel)⟩
  have hdeciding : IsStatus deciding (Octets.ofString "up%2") :=
    isStatus_iff.2 (by decide +kernel)
  have hsame : Rearranged [broken, deciding, last] ([] ++ broken :: [deciding, last]) := .same
  have hmoved : Rearranged [broken, deciding, last] ([deciding, last] ++ broken :: []) :=
    .move hbroken hsame rfl
  have hread : readPart (Octets.ofString "up%2") = "up%2" := by decide +kernel
  obtain ⟨-, hrearranged, hfirst⟩ := status?_by_pieces
  refine ⟨hbroken, hdeciding, hmoved, hrearranged _ _ hmoved, ?_⟩
  rw [← hread]
  exact hfirst [broken] [last] deciding _ (by simpa using hbroken) (by decide +kernel) hdeciding

end Query

end ResultPages
