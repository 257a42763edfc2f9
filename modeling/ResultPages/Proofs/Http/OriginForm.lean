/-
Targets in origin form: a path that begins with a slash, and a query behind a question mark.

The octets that may stand in a path are neither question marks nor number signs, and those
that may stand in a query are no number signs.  So a path and a query that hold nothing else
are found again where they have been put together.
-/
import Mathlib.Data.List.TakeWhile
import ResultPages.Http.Target

namespace ResultPages

namespace Target

lemma ne_of_isPathOctet {b : UInt8} (h : isPathOctet b) :
    b ≠ '?'.toUInt8 ∧ b ≠ '#'.toUInt8 := by
  rw [isPathOctet, isOneOf, String.toList_ofList] at h
  constructor <;>
    rintro rfl <;>
    exact absurd h (by decide)

lemma ne_of_isQueryOctet {b : UInt8} (h : isQueryOctet b) : b ≠ '#'.toUInt8 := by
  rintro rfl
  exact absurd h (by decide)

/-- A path and a query in origin form are read as they were written. -/
theorem parse_originForm {rest query : Octets}
    (hpath : ('/'.toUInt8 :: rest).all isPathOctet) (hquery : query.all isQueryOctet)
    (hlen : rest.length + query.length + 2 ≤ 65534) :
    parse ('/'.toUInt8 :: rest ++ '?'.toUInt8 :: query) =
      .ok ⟨[], [], '/'.toUInt8 :: rest, some query⟩ := by
  have hpath' := List.all_eq_true.1 hpath
  have hquery' := List.all_eq_true.1 hquery
  -- nothing is dropped as a fragment
  have hkept : dropFragment ('/'.toUInt8 :: rest ++ '?'.toUInt8 :: query) =
      '/'.toUInt8 :: rest ++ '?'.toUInt8 :: query := by
    rw [dropFragment, List.takeWhile_eq_self_iff]
    intro b hb
    refine decide_eq_true ?_
    rcases List.mem_append.1 hb with hb | hb
    · exact (ne_of_isPathOctet (hpath' b hb)).2
    · rcases List.mem_cons.1 hb with rfl | hb
      · decide
      · exact ne_of_isQueryOctet (hquery' b hb)
  -- and the path ends at the question mark
  have hmark : ∀ b ∈ '/'.toUInt8 :: rest, decide (b ≠ '?'.toUInt8) = true := fun b hb =>
    decide_eq_true (ne_of_isPathOctet (hpath' b hb)).1
  have hread : pathAndQuery [] [] ('/'.toUInt8 :: rest ++ '?'.toUInt8 :: query) =
      .ok ⟨[], [], '/'.toUInt8 :: rest, some query⟩ := by
    rw [pathAndQuery]
    simp only [hkept, List.takeWhile_append_of_pos hmark, List.dropWhile_append_of_pos hmark]
    simp [hpath, hquery]
  have hlong : ¬ 65534 < ('/'.toUInt8 :: rest ++ '?'.toUInt8 :: query).length := by
    simp only [List.length_append, List.length_cons]
    omega
  rw [parse.eq_def, if_neg hlong]
  cases rest with
  | nil => exact hread
  | cons c rest => exact hread

end Target

end ResultPages
