/-
All the ways to write a list of pairs as a query.

A writer of queries has many choices: which characters to escape, the letter case of the digits
in an escape, a plus or an escape for a space, and empty pieces anywhere.  Only what would be
mistaken has to be escaped: percent signs, plus signs and `&`, and in keys `=`.  `WritesPieces`
lists all these choices, and a reader cannot tell them apart: the pairs that are read are the
pairs that were written (`pairs_of_writesPieces`).
-/
import ResultPages.Proofs.Query.Together
import ResultPages.Proofs.Query.Written

namespace ResultPages

namespace Query

/-! ### The choices of a writer -/

/-- The escapes of some octets. -/
inductive Escapes : Octets → List Char → Prop where
  | nil : Escapes [] []
  | cons {b : UInt8} {high low : Char} {bs : Octets} {ws : List Char} :
      IsDigitOf (b.toNat / 16) high → IsDigitOf (b.toNat % 16) low → Escapes bs ws →
      Escapes (b :: bs) ('%' :: high :: low :: ws)

/-- The ways to write a character in a part of a piece, where the characters `marks` cannot stand
for themselves. -/
inductive WritesChar (marks : List Char) : Char → List Char → Prop where
  | literal {c : Char} : c ∉ marks → WritesChar marks c [c]
  | escaped {c : Char} {ws : List Char} : Escapes (String.utf8EncodeChar c) ws →
      WritesChar marks c ws
  | plus : WritesChar marks ' ' ['+']

/-- The ways to write a text in a part of a piece. -/
inductive WritesPart (marks : List Char) : List Char → List Char → Prop where
  | nil : WritesPart marks [] []
  | cons {c : Char} {cs vs ws : List Char} : WritesChar marks c vs → WritesPart marks cs ws →
      WritesPart marks (c :: cs) (vs ++ ws)

/-- The characters that cannot stand for themselves in a value. -/
def valueMarks : List Char := ['%', '+', '&']

/-- The characters that cannot stand for themselves in a key. -/
def keyMarks : List Char := ['%', '+', '&', '=']

/-- The ways to write some pairs as pieces of a query. -/
inductive WritesPieces : List (String × String) → List (List Char) → Prop where
  | nil : WritesPieces [] []
  /-- An empty piece. -/
  | empty {kvs : List (String × String)} {ps : List (List Char)} : WritesPieces kvs ps →
      WritesPieces kvs ([] :: ps)
  | pair {k v : String} {key value : List Char} {kvs : List (String × String)}
      {ps : List (List Char)} : WritesPart keyMarks k.toList key →
      WritesPart valueMarks v.toList value → WritesPieces kvs ps →
      WritesPieces ((k, v) :: kvs) ((key ++ '=' :: value) :: ps)

/-! ### Escapes -/

namespace Escapes

variable {os : Octets} {ws : List Char}

lemma spells (h : Escapes os ws) {part bs : Octets} (hpart : Spells part bs) :
    Spells (Utf8.encode ws ++ part) (os ++ bs) := by
  induction h with
  | nil => exact hpart
  | cons hhigh hlow _ ih =>
      obtain ⟨hliteral, hliteral'⟩ := isLiteral_of_digits hhigh hlow
      rw [Utf8.encode_cons_of_ascii (by decide),
        Utf8.encode_cons_of_ascii (toNat_lt_of_isLiteral hliteral),
        Utf8.encode_cons_of_ascii (toNat_lt_of_isLiteral hliteral')]
      exact .escape ⟨_, _, rfl, rfl, hhigh, hlow⟩ ih

lemma isWritten_of_mem (h : Escapes os ws) {c : Char} (hc : c ∈ ws) : isWritten c := by
  induction h with
  | nil => exact absurd hc List.not_mem_nil
  | cons hhigh hlow _ ih =>
      obtain ⟨hliteral, hliteral'⟩ := isLiteral_of_digits hhigh hlow
      rcases List.mem_cons.1 hc with rfl | hc
      · decide
      rcases List.mem_cons.1 hc with rfl | hc
      · exact isWritten_of_isLiteral hliteral
      rcases List.mem_cons.1 hc with rfl | hc
      · exact isWritten_of_isLiteral hliteral'
      · exact ih hc

end Escapes

/-! ### Characters and texts -/

/-- Octets other than plus and percent signs are themselves. -/
lemma Spells.selves {os : Octets} (hplus : '+'.toUInt8 ∉ os) (hpercent : '%'.toUInt8 ∉ os)
    {part bs : Octets} (h : Spells part bs) : Spells (os ++ part) (os ++ bs) := by
  induction os with
  | nil => exact h
  | cons b os ih =>
      rw [List.mem_cons, not_or] at hplus hpercent
      refine .self (Ne.symm hplus.1) ?_ (ih hplus.2 hpercent.2)
      rintro ⟨_, _, _, _, heq, -⟩
      exact hpercent.1 (List.cons.inj heq).1.symm

section

variable {marks : List Char}

/-- However a character is written, it spells its octets. -/
lemma WritesChar.spells (hmarks : valueMarks ⊆ marks) {c : Char} {ws : List Char}
    (h : WritesChar marks c ws) {part bs : Octets} (hpart : Spells part bs) :
    Spells (Utf8.encode ws ++ part) (String.utf8EncodeChar c ++ bs) := by
  cases h with
  | literal hc =>
      have hnot : ∀ d ∈ valueMarks, d.toNat < 128 → d.toUInt8 ∉ Utf8.encode [c] := by
        intro d hd hascii
        rw [Utf8.toUInt8_mem_encode_iff hascii, List.mem_singleton]
        rintro rfl
        exact hc (hmarks hd)
      have hself : Utf8.encode [c] = String.utf8EncodeChar c := List.append_nil _
      rw [hself] at hnot ⊢
      exact hpart.selves (hnot '+' (by decide) (by decide)) (hnot '%' (by decide) (by decide))
  | escaped h => exact h.spells hpart
  | plus => exact .plus hpart

/-- However a text is written, it spells its octets. -/
lemma WritesPart.spells (hmarks : valueMarks ⊆ marks) {cs ws : List Char}
    (h : WritesPart marks cs ws) : Spells (Utf8.encode ws) (Utf8.encode cs) := by
  induction h with
  | nil => exact .nil
  | cons hc _ ih =>
      rw [Utf8.encode_append]
      exact hc.spells hmarks ih

/-- A mark that is not written for anything else does not stand in what is written. -/
lemma WritesPart.not_mem {m : Char} (hm : m ∈ marks) (hwritten : ¬ isWritten m)
    {cs ws : List Char} (h : WritesPart marks cs ws) : m ∉ ws := by
  induction h with
  | nil => exact List.not_mem_nil
  | cons hc _ ih =>
      rw [List.mem_append, not_or]
      refine ⟨fun hmem => ?_, ih⟩
      cases hc with
      | literal hc => exact hc (List.mem_singleton.1 hmem ▸ hm)
      | escaped h => exact hwritten (h.isWritten_of_mem hmem)
      | plus => exact hwritten (List.mem_singleton.1 hmem ▸ by decide)

end

/-! ### Queries -/

/-- The octets of texts put together with `&`. -/
lemma encode_join (ps : List (List Char)) :
    Utf8.encode (join '&' ps) = join '&'.toUInt8 (ps.map Utf8.encode) := by
  match ps with
  | [] => rfl
  | [p] => rfl
  | p :: q :: ps =>
      have ih := encode_join (q :: ps)
      rw [List.map_cons] at ih
      rw [join, Utf8.encode_append, Utf8.encode_cons_of_ascii (by decide), ih, List.map_cons,
        List.map_cons, join]

/-- A written pair is read as that pair. -/
lemma pairs_of_writesPart {k v : String} {key value : List Char}
    (hkey : WritesPart keyMarks k.toList key) (hvalue : WritesPart valueMarks v.toList value) :
    pairs (Utf8.encode (key ++ '=' :: value)) = [(k, v)] := by
  have hequals : '='.toUInt8 ∉ Utf8.encode key := by
    rw [Utf8.toUInt8_mem_encode_iff (by decide)]
    exact hkey.not_mem (by decide) (by decide)
  have hamp : '&'.toUInt8 ∉ Utf8.encode key ++ Utf8.encode value := by
    rw [← Utf8.encode_append, Utf8.toUInt8_mem_encode_iff (by decide), List.mem_append, not_or]
    exact ⟨hkey.not_mem (by decide) (by decide), hvalue.not_mem (by decide) (by decide)⟩
  rw [Utf8.encode_append, Utf8.encode_cons_of_ascii (by decide)]
  exact pairs_of_spells (hkey.spells (by decide)) (hvalue.spells (by decide)) hequals hamp

/-- However pairs are written, they are read again, and nothing else is. -/
theorem pairs_of_writesPieces {kvs : List (String × String)} {ps : List (List Char)}
    (h : WritesPieces kvs ps) : pairs (Utf8.encode (join '&' ps)) = kvs := by
  rw [encode_join, pairs_join]
  induction h with
  | nil => rfl
  | empty _ ih => exact ih
  | pair hkey hvalue _ ih =>
      rw [List.map_cons, List.flatMap_cons, pairs_of_writesPart hkey hvalue, ih]
      rfl

/-- However pairs are written, a query asks for the first value of the key `status` among them. -/
theorem status?_of_writesPieces {kvs : List (String × String)} {ps : List (List Char)}
    (h : WritesPieces kvs ps) :
    status? (Octets.ofString (String.ofList (join '&' ps))) =
      (kvs.find? fun kv => kv.1 = "status").map fun kv => kv.2 := by
  rw [status?, first?, Octets.ofString, String.toList_ofList, pairs_of_writesPieces h]
  rfl

lemma escapes_equals : WritesChar keyMarks '=' ['%', '3', 'D'] :=
  .escaped (show Escapes [0x3D] _ from .cons (.inl rfl) (.inr rfl) .nil)

lemma escapes_e_acute : WritesChar valueMarks 'é' ['%', 'c', '3', '%', 'A', '9'] :=
  .escaped (show Escapes [0xC3, 0xA9] _ from
    .cons (.inl rfl) (.inl rfl) (.cons (.inr rfl) (.inl rfl) .nil))

lemma writes_status : WritesPart keyMarks "status".toList
    ['s', 't', 'a', '%', '7', '4', 'u', 's'] := by
  have ht : WritesChar keyMarks 't' ['%', '7', '4'] :=
    .escaped (show Escapes [0x74] _ from .cons (.inl rfl) (.inl rfl) .nil)
  rw [String.toList_ofList]
  exact .cons (.literal (by decide)) (.cons (.literal (by decide))
    (.cons (.literal (by decide)) (.cons ht (.cons (.literal (by decide))
      (.cons (.literal (by decide)) .nil)))))

/-- A key with an escaped letter, a character of two octets with digits of both letter cases, a
key that holds `=`, and empty pieces. -/
theorem status?_of_escaped_key :
    let ps := [[], ['%', '3', 'D', '=', '='], [], ['s', 't', 'a', '%', '7', '4', 'u', 's', '=', '%',
      'c', '3', '%', 'A', '9', '+'], []]
    WritesPieces [("=", "="), ("status", "é ")] ps ∧
      String.ofList (join '&' ps) = "&%3D==&&sta%74us=%c3%A9+&" ∧
      status? (Octets.ofString "&%3D==&&sta%74us=%c3%A9+&") = some "é " := by
  intro ps
  have hother : WritesPart keyMarks "=".toList ['%', '3', 'D'] ∧
      WritesPart valueMarks "=".toList ['='] := by
    rw [String.toList_ofList]
    exact ⟨.cons escapes_equals .nil, .cons (.literal (by decide)) .nil⟩
  have hvalue : WritesPart valueMarks "é ".toList ['%', 'c', '3', '%', 'A', '9', '+'] := by
    rw [String.toList_ofList]
    exact .cons escapes_e_acute (.cons .plus .nil)
  have hwritten : WritesPieces [("=", "="), ("status", "é ")] ps :=
    .empty (.pair hother.1 hother.2 (.empty (.pair writes_status hvalue (.empty .nil))))
  have hquery : String.ofList (join '&' ps) = "&%3D==&&sta%74us=%c3%A9+&" := rfl
  refine ⟨hwritten, hquery, ?_⟩
  rw [← hquery]
  exact status?_of_writesPieces hwritten

end Query

end ResultPages
