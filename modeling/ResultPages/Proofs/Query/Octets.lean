/-
Which status a query asks for, told by its octets.

`Query.status?` reads every piece as text before it compares keys, and octets that are not
UTF-8 become U+FFFD on the way.  No key and no token that is looked for holds U+FFFD, so a
match can be told from the octets alone.  `Query.AsksFor` says so without reading any text: it
is put together from

* `Query.IsPairOf`, two hexadecimal digits and the octet with that number;
* `Query.Spells`, the rule by which a part of a piece stands for octets, whatever it holds;
* `Query.Holds`, the key and the value of a piece;
* `Query.IsStatus`, a piece whose key spells `status`;
* `Query.IsDecidedBy`, the value of the first of these pieces.
-/
import Mathlib.Tactic.Common
import ResultPages.Flow
import ResultPages.Proofs.Text.Ascii
import ResultPages.Proofs.Text.Utf8
import ResultPages.Query

namespace ResultPages

/-! ### Outcomes -/

namespace Outcome

theorem message_injective {f : Flow} : Function.Injective (message (f := f)) := by
  intro o o' h
  cases f <;> cases o <;> cases o' <;> first | rfl | exact absurd h (by decide)

/-- An outcome other than failure is shown only for its token. -/
theorem ofStatus_eq_iff {f : Flow} {o : Outcome f} (ho : o ≠ failure f)
    {status : Option String} : ofStatus f status = o ↔ status = some o.token := by
  constructor
  · rintro rfl
    cases status with
    | none => exact absurd rfl ho
    | some s =>
        cases hs : ofToken? f s with
        | none => simp [ofStatus, hs] at ho
        | some o =>
            obtain rfl := ofToken?_eq_some_iff.1 hs
            rw [ofStatus_token]
  · rintro rfl
    exact ofStatus_token o

end Outcome

namespace Query

/-! ### Hexadecimal digits -/

/-- A hexadecimal digit, with a letter of either case. -/
def IsDigitOf (n : Nat) (c : Char) : Prop := c = Nat.digitChar n ∨ c = (Nat.digitChar n).toUpper

/-- Two hexadecimal digits and the octet with that number. -/
def IsPairOf (v h l : UInt8) : Prop :=
  ∃ high low : Char, h = high.toUInt8 ∧ l = low.toUInt8 ∧
    IsDigitOf (v.toNat / 16) high ∧ IsDigitOf (v.toNat % 16) low

lemma hexValue?_of_isDigitOf {n : Nat} (hn : n < 16) {c : Char} (h : IsDigitOf n c) :
    hexValue? c.toUInt8 = some n := by
  have hall : ∀ n < 16, hexValue? (Nat.digitChar n).toUInt8 = some n ∧
      hexValue? (Nat.digitChar n).toUpper.toUInt8 = some n := by decide
  rcases h with rfl | rfl
  · exact (hall n hn).1
  · exact (hall n hn).2

lemma exists_isDigitOf {b : UInt8} {n : Nat} (h : hexValue? b = some n) :
    n < 16 ∧ ∃ c : Char, b = c.toUInt8 ∧ IsDigitOf n c := by
  have hall : ∀ n ∈ hexValue? b, n < 16 ∧
      (b = (Nat.digitChar n).toUInt8 ∨ b = (Nat.digitChar n).toUpper.toUInt8) :=
    forall_octet (P := fun b => ∀ n ∈ hexValue? b, n < 16 ∧
      (b = (Nat.digitChar n).toUInt8 ∨ b = (Nat.digitChar n).toUpper.toUInt8))
      (by decide +kernel) b
  obtain ⟨hn, hb | hb⟩ := hall n h
  · exact ⟨hn, _, hb, Or.inl rfl⟩
  · exact ⟨hn, _, hb, Or.inr rfl⟩

/-- Two digits are read as the octet with their number. -/
theorem pair?_eq_some_iff {h l v : UInt8} : Percent.pair? h l = some v ↔ IsPairOf v h l := by
  constructor
  · intro hv
    rw [Percent.pair?] at hv
    split at hv
    · next a b ha hb =>
      obtain ⟨ha_lt, high, rfl, hhigh⟩ := exists_isDigitOf ha
      obtain ⟨hb_lt, low, rfl, hlow⟩ := exists_isDigitOf hb
      obtain rfl := Option.some.inj hv
      have hnat : (UInt8.ofNat (16 * a + b)).toNat = 16 * a + b :=
        UInt8.toNat_ofNat_of_lt' (by change _ < 256; omega)
      have hdiv : (16 * a + b) / 16 = a := by omega
      have hmod : (16 * a + b) % 16 = b := by omega
      refine ⟨high, low, rfl, rfl, ?_, ?_⟩
      · rwa [hnat, hdiv]
      · rwa [hnat, hmod]
    · cases hv
  · rintro ⟨high, low, rfl, rfl, hhigh, hlow⟩
    have hv := v.toNat_lt
    have hsum : 16 * (v.toNat / 16) + v.toNat % 16 = v.toNat := Nat.div_add_mod _ _
    simp only [Percent.pair?, hexValue?_of_isDigitOf (by omega) hhigh,
      hexValue?_of_isDigitOf (by omega) hlow, hsum, UInt8.ofNat_toNat]

/-! ### What a part of a piece stands for -/

/-- An octet sequence that begins with a well-formed escape. -/
def BeginsEscape (part : Octets) : Prop :=
  ∃ h l v rest, part = '%'.toUInt8 :: h :: l :: rest ∧ IsPairOf v h l

/-- `Spells part bs` says that a part of a piece stands for the octets `bs`. -/
inductive Spells : Octets → Octets → Prop where
  | nil : Spells [] []
  /-- A plus is a space. -/
  | plus {part bs : Octets} : Spells part bs → Spells ('+'.toUInt8 :: part) (' '.toUInt8 :: bs)
  /-- Two hexadecimal digits behind a percent sign are the octet with that number. -/
  | escape {h l v : UInt8} {part bs : Octets} : IsPairOf v h l → Spells part bs →
      Spells ('%'.toUInt8 :: h :: l :: part) (v :: bs)
  /-- Every other octet is itself, a percent sign without two digits too. -/
  | self {b : UInt8} {part bs : Octets} : b ≠ '+'.toUInt8 → ¬ BeginsEscape (b :: part) →
      Spells part bs → Spells (b :: part) (b :: bs)

lemma decodePart_plus (part : Octets) :
    decodePart ('+'.toUInt8 :: part) = ' '.toUInt8 :: decodePart part := by
  rw [decodePart, List.map_cons, if_pos rfl, Percent.decode_cons_of_ne (by decide), decodePart]

/-- A plus is no digit, and neither is the space that it stands for. -/
lemma pair?_of_plus (h l : UInt8) :
    Percent.pair? (if h = '+'.toUInt8 then ' '.toUInt8 else h)
      (if l = '+'.toUInt8 then ' '.toUInt8 else l) = Percent.pair? h l := by
  have hvalue : ∀ b : UInt8,
      hexValue? (if b = '+'.toUInt8 then ' '.toUInt8 else b) = hexValue? b := by
    intro b
    split
    · next hb => rw [hb]; decide
    · rfl
  rw [Percent.pair?, Percent.pair?, hvalue, hvalue]

lemma decodePart_escape {h l v : UInt8} (hv : IsPairOf v h l) (part : Octets) :
    decodePart ('%'.toUInt8 :: h :: l :: part) = v :: decodePart part := by
  rw [decodePart, List.map_cons, List.map_cons, List.map_cons, if_neg (by decide),
    Percent.decode_escape (by rw [pair?_of_plus, pair?_eq_some_iff.2 hv]), decodePart]

lemma decodePart_self {b : UInt8} {part : Octets} (hb : b ≠ '+'.toUInt8)
    (hpart : ¬ BeginsEscape (b :: part)) : decodePart (b :: part) = b :: decodePart part := by
  rw [decodePart, List.map_cons, if_neg hb, decodePart]
  by_cases hp : b = '%'.toUInt8
  · subst hp
    match part, hpart with
    | [], _ => rfl
    | [c], _ => rfl
    | h :: l :: rest, hpart =>
        have hnone : Percent.pair? h l = none := by
          rw [Option.eq_none_iff_forall_ne_some]
          exact fun v hv => hpart ⟨h, l, v, rest, rfl, pair?_eq_some_iff.1 hv⟩
        rw [List.map_cons, List.map_cons, Percent.decode, if_pos rfl, pair?_of_plus, hnone]
  · exact Percent.decode_cons_of_ne hp _

/-- Every part spells the octets that it is decoded to. -/
theorem spells_decodePart (part : Octets) : Spells part (decodePart part) := by
  match part with
  | [] => exact .nil
  | b :: part =>
      by_cases hb : b = '+'.toUInt8
      · subst hb
        rw [decodePart_plus]
        exact .plus (spells_decodePart part)
      by_cases hpart : BeginsEscape (b :: part)
      · obtain ⟨h, l, v, rest, heq, hv⟩ := hpart
        rw [heq, decodePart_escape hv]
        have hlt : rest.length < part.length + 1 := by
          have := congrArg List.length heq
          simp only [List.length_cons] at this
          omega
        exact .escape hv (spells_decodePart rest)
      · rw [decodePart_self hb hpart]
        exact .self hb hpart (spells_decodePart part)
termination_by part.length

theorem spells_iff {part bs : Octets} : Spells part bs ↔ decodePart part = bs := by
  constructor
  · intro h
    induction h with
    | nil => rfl
    | plus _ ih => rw [decodePart_plus, ih]
    | escape hv _ ih => rw [decodePart_escape hv, ih]
    | self hb hpart _ ih => rw [decodePart_self hb hpart, ih]
  · rintro rfl
    exact spells_decodePart part

/-! ### Keys and tokens -/

/-- A part is read as a text without U+FFFD only if it spells the octets of that text. -/
lemma readPart_eq_iff {part : Octets} {s : String} (hs : '\uFFFD' ∉ s.toList) :
    readPart part = s ↔ Spells part (.ofString s) := by
  rw [readPart, Octets.toStringLossy_eq_iff hs, spells_iff]

lemma readPart_eq_statusKey_iff {part : Octets} :
    readPart part = statusKey ↔ Spells part (.ofString statusKey) := by
  apply readPart_eq_iff
  unfold statusKey
  rw [String.toList_ofList]
  decide

lemma readPart_eq_token_iff {f : Flow} {part : Octets} (o : Outcome f) :
    readPart part = o.token ↔ Spells part (.ofString o.token) := by
  apply readPart_eq_iff
  cases o <;> unfold Outcome.token <;> rw [String.toList_ofList] <;> decide

/-! ### The piece that decides -/

/-- The key and the value of a piece.  A piece without `=` has an empty value. -/
def Holds (piece key value : Octets) : Prop :=
  '='.toUInt8 ∉ key ∧ (piece = key ++ '='.toUInt8 :: value ∨ piece = key ∧ value = [])

/-- A piece whose key spells `status`, with its value. -/
def IsStatus (piece value : Octets) : Prop :=
  piece ≠ [] ∧ ∃ key, Holds piece key value ∧ Spells key (.ofString statusKey)

/-- The first piece of a query whose key spells `status` has a given value. -/
def IsDecidedBy (query : Option Octets) (value : Octets) : Prop :=
  ∃ before piece after,
    query = some (join '&'.toUInt8 (before ++ piece :: after)) ∧
      (∀ p ∈ before ++ piece :: after, '&'.toUInt8 ∉ p) ∧
      (∀ p ∈ before, ∀ v, ¬ IsStatus p v) ∧ IsStatus piece value

/-- A query asks for an outcome if the value that decides spells the token of the outcome. -/
def AsksFor {f : Flow} (query : Option Octets) (o : Outcome f) : Prop :=
  ∃ value, IsDecidedBy query value ∧ Spells value (.ofString o.token)

theorem keyValue_eq_iff {piece key value : Octets} :
    keyValue piece = (key, value) ↔ Holds piece key value := by
  rw [keyValue, Prod.mk.injEq, Holds]
  constructor
  · rintro ⟨rfl, rfl⟩
    obtain ⟨hkey, hpiece⟩ := cut_spec '='.toUInt8 piece
    refine ⟨hkey, ?_⟩
    cases hcut : (cut '='.toUInt8 piece).2 with
    | none => exact Or.inr ⟨by simpa [hcut] using hpiece, rfl⟩
    | some value => exact Or.inl (by simpa [hcut] using hpiece)
  · rintro ⟨hkey, rfl | ⟨rfl, rfl⟩⟩
    · simp [cut_append_cons hkey]
    · simp [cut_of_not_mem hkey]

/-- Whether a piece has the key `status`, as the reader finds out. -/
def hasStatusKey (piece : Octets) : Bool :=
  piece ≠ [] && readPart (keyValue piece).1 = statusKey

lemma isStatus_iff {piece value : Octets} :
    IsStatus piece value ↔ hasStatusKey piece ∧ (keyValue piece).2 = value := by
  rw [hasStatusKey, Bool.and_eq_true, decide_eq_true_iff, decide_eq_true_iff, and_assoc,
    readPart_eq_statusKey_iff, IsStatus]
  refine and_congr_right fun _ => ?_
  constructor
  · rintro ⟨key, hholds, hkey⟩
    rw [← keyValue_eq_iff] at hholds
    rw [hholds]
    exact ⟨hkey, rfl⟩
  · rintro ⟨hkey, rfl⟩
    exact ⟨(keyValue piece).1, keyValue_eq_iff.1 rfl, hkey⟩

lemma not_isStatus_iff {piece : Octets} :
    (∀ value, ¬ IsStatus piece value) ↔ ¬ hasStatusKey piece := by
  simp only [isStatus_iff, not_and]
  exact ⟨fun h hkey => h _ hkey rfl, fun h _ hkey => absurd hkey h⟩

lemma status?_eq_map (query : Octets) :
    status? query = ((pieces '&'.toUInt8 query).find? hasStatusKey).map
      fun piece => readPart (keyValue piece).2 := by
  -- leaving out empty pieces and comparing keys come to one test of a piece
  rw [status?, first?, pairs, List.find?_map, List.find?_filter, Option.map_map]
  congr 1
  congr 1
  funext piece
  simp [hasStatusKey]

/-- The reader gets a status exactly if a value decides that is read as this text. -/
theorem status?_eq_some_iff {query : Option Octets} {s : String} :
    query.bind status? = some s ↔ ∃ value, IsDecidedBy query value ∧ readPart value = s := by
  simp only [Option.bind_eq_some_iff, status?_eq_map, Option.map_eq_some_iff,
    List.find?_eq_some_iff_append]
  constructor
  · rintro ⟨octets, rfl, piece, ⟨hpiece, before, after, hsplit, hbefore⟩, hread⟩
    obtain ⟨rfl, hno⟩ := (pieces_eq_iff (by simp)).1 hsplit
    refine ⟨_, ⟨before, piece, after, rfl, hno, fun p hp => ?_, isStatus_iff.2 ⟨hpiece, rfl⟩⟩,
      hread⟩
    rw [not_isStatus_iff]
    simpa using hbefore p hp
  · rintro ⟨value, ⟨before, piece, after, rfl, hno, hbefore, hpiece⟩, hread⟩
    obtain ⟨hkey, rfl⟩ := isStatus_iff.1 hpiece
    refine ⟨_, rfl, piece, ⟨hkey, before, after, pieces_join (by simp) hno, fun p hp => ?_⟩,
      hread⟩
    simpa using not_isStatus_iff.1 (hbefore p hp)

/-- The reader gets the token of an outcome exactly from the queries that ask for it. -/
theorem status?_eq_token_iff {f : Flow} {query : Option Octets} {o : Outcome f} :
    query.bind status? = some o.token ↔ AsksFor query o := by
  simp only [status?_eq_some_iff, readPart_eq_token_iff, AsksFor]

theorem ofStatus_bind_status?_eq_iff {f : Flow} {o : Outcome f} (ho : o ≠ .failure f)
    (query : Option Octets) :
    Outcome.ofStatus f (query.bind status?) = o ↔ AsksFor query o := by
  rw [Outcome.ofStatus_eq_iff ho, status?_eq_token_iff]

end Query

end ResultPages
