/-
The ways to spell an option on the command line.

An option is spelled by its name or by its letter, and its value is attached to it or stands in
the next argument.  `Spelling` lists the ways, with what a value must not be like so that it is
not mistaken for something else.  However options are spelled, they have been written in the
grammar of command lines (`Spelled.written`).
-/
import ResultPages.Proofs.CommandLine.Given
import ResultPages.Proofs.CommandLine.Grammar
import ResultPages.Proofs.Text.Ascii

namespace ResultPages

/-- The arguments that give an option a value. -/
inductive Spelling (o : ValueOption) (v : String) : List Octets → Prop where
  /-- `--name=value` -/
  | attached : Spelling o v [.ofString ("--" ++ o.name ++ "=" ++ v)]
  /-- `--name value` -/
  | apart : v.toList.head? ≠ some '-' → Spelling o v [.ofString ("--" ++ o.name), .ofString v]
  /-- `-nvalue` -/
  | letterAttached {c : Char} : (Opt.value o).letter? = some c → v.toList ≠ [] →
      v.toList.head? ≠ some '=' → Spelling o v [.ofString ("-" ++ c.toString ++ v)]
  /-- `-n=value` -/
  | letterEquals {c : Char} : (Opt.value o).letter? = some c →
      Spelling o v [.ofString ("-" ++ c.toString ++ "=" ++ v)]
  /-- `-n value` -/
  | letterApart {c : Char} : (Opt.value o).letter? = some c → v.toList.head? ≠ some '-' →
      Spelling o v [.ofString ("-" ++ c.toString), .ofString v]

/-- The arguments that give some options their values, one after the other. -/
inductive Spelled : List (ValueOption × String) → List Octets → Prop where
  | nil : Spelled [] []
  | cons {o : ValueOption × String} {os : List (ValueOption × String)} {part args : List Octets} :
      Spelling o.1 o.2 part → Spelled os args → Spelled (o :: os) (part ++ args)

/-! ### Octets of arguments -/

namespace Octets

lemma ofString_append (s t : String) : ofString (s ++ t) = ofString s ++ ofString t := by
  rw [ofString, String.toList_append, Utf8.encode_append]
  rfl

lemma ofString_ne_nil {v : String} (h : v.toList ≠ []) : ofString v ≠ [] := by
  obtain ⟨c, cs, hv⟩ := List.exists_cons_of_ne_nil h
  rw [ofString, hv, Utf8.encode_cons]
  exact List.append_ne_nil_of_left_ne_nil String.utf8EncodeChar_ne_nil _

/-- A text that does not begin with an ASCII character does not begin with its octet. -/
lemma head?_ofString_ne {c : Char} (hc : c.toNat < 128) {v : String}
    (h : v.toList.head? ≠ some c) : (ofString v).head? ≠ some c.toUInt8 := by
  intro hhead
  cases hv : v.toList with
  | nil =>
      rw [ofString, hv] at hhead
      cases hhead
  | cons d ds =>
      rw [hv, List.head?_cons, Ne, Option.some.injEq] at h
      have hne : String.utf8EncodeChar d ≠ [] := String.utf8EncodeChar_ne_nil
      rw [ofString, hv, Utf8.encode_cons, List.head?_append_of_ne_nil _ hne] at hhead
      have hmem : c.toUInt8 ∈ Utf8.encode [d] := by
        rw [Utf8.encode_cons, Utf8.encode_nil, List.append_nil]
        exact List.mem_of_mem_head? hhead
      rw [Utf8.toUInt8_mem_encode_iff hc, List.mem_singleton] at hmem
      exact h hmem.symm

end Octets

/-! ### What is spelled has been written -/

/-- The items that some options with their values are. -/
def Item.ofTexts (os : List (ValueOption × String)) : List Item :=
  os.map fun o => .option o.1 (.ofString o.2)

lemma Given.takeItems_ofTexts (g : Given) (os : List (ValueOption × String)) :
    g.takeItems (Item.ofTexts os) = g.takeAll os :=
  List.foldlM_map

/-- A text that does not begin with a hyphen is not taken for an option. -/
lemma Scan.isDashed_ofString {v : String} (hv : v.toList.head? ≠ some '-') :
    isDashed (Octets.ofString v) = false := by
  have hhead : (Octets.ofString v).head? ≠ some '-'.toUInt8 :=
    Octets.head?_ofString_ne (by decide) hv
  match hbs : Octets.ofString v with
  | [] => rfl
  | [b] => rfl
  | b :: d :: bs =>
      rw [hbs, List.head?_cons, Ne, Option.some.injEq] at hhead
      simpa [isDashed] using hhead

variable {c : Command}

/-- However an option is spelled, it is a piece. -/
lemma Spelling.piece {o : ValueOption} {v : String} {part : List Octets} (h : Spelling o v part)
    (ho : Opt.value o ∈ c.options) : c.Piece [.option o (.ofString v)] part := by
  have hequals : Octets.ofString "=" = ['='.toUInt8] := rfl
  have hname : Octets.ofString ("--" ++ o.name) =
      '-'.toUInt8 :: '-'.toUInt8 :: Octets.ofString o.name := by
    rw [Octets.ofString_append]
    rfl
  have hletter : Octets.ofString ("-" ++ 'p'.toString) = ['-'.toUInt8, 'p'.toUInt8] := rfl
  cases h with
  | attached =>
      rw [Octets.ofString_append, Octets.ofString_append, hname, hequals, List.append_assoc]
      exact .attached _ (.long ho)
  | apart hv =>
      rw [hname]
      exact .apart (.long ho) (Scan.isDashed_ofString hv)
  | letterAttached hl hne hv =>
      have hhead := Octets.head?_ofString_ne (c := '=') (by decide) hv
      obtain ⟨rfl, rfl⟩ := Scan.letter_eq hl
      obtain ⟨b, bs, hbs⟩ := List.exists_cons_of_ne_nil (Octets.ofString_ne_nil hne)
      rw [hbs, List.head?_cons, Ne, Option.some.injEq] at hhead
      rw [Octets.ofString_append, hletter, hbs]
      exact .joined 0 bs ho hl hhead
  | letterEquals hl =>
      obtain ⟨rfl, rfl⟩ := Scan.letter_eq hl
      rw [Octets.ofString_append, Octets.ofString_append, hletter, hequals, List.append_assoc]
      exact .attached _ (.letter 0 ho hl)
  | letterApart hl hv =>
      obtain ⟨rfl, rfl⟩ := Scan.letter_eq hl
      rw [hletter]
      exact .apart (.letter 0 ho hl) (Scan.isDashed_ofString hv)

/-- However options are spelled, they have been written in the grammar. -/
theorem Spelled.written {os : List (ValueOption × String)} {args : List Octets}
    (h : Spelled os args) (hos : ∀ o ∈ os, Opt.value o.1 ∈ c.options) :
    c.Written (Item.ofTexts os) args := by
  induction h with
  | nil => exact .nil
  | cons hpart hargs ih =>
      rw [List.forall_mem_cons] at hos
      exact .cons (hpart.piece hos.1) (ih hos.2)

end ResultPages
