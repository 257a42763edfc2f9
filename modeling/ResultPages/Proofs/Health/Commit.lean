/-
The name of a build.

A build is named by the program, its version and the short form of a commit.  The short form is
the head of the trimmed identifier that fills seven octets, if the seventh octet ends a character,
and otherwise all of it (`isShortForm_iff`).  The name may be the value of a header unless there
is a control character in it; in the hash of a commit there is none (`isValue_appId_of_commit`).
-/
import Mathlib.Data.List.Basic
import ResultPages.Health
import ResultPages.Http.Message
import ResultPages.Proofs.Text.Ascii
import ResultPages.Proofs.Text.Trim

namespace ResultPages

/-! ### The short form of a commit -/

lemma Utf8.length_encode_cons (c : Char) (cs : List Char) :
    (Utf8.encode (c :: cs)).length = c.utf8Size + (Utf8.encode cs).length := by
  rw [Utf8.encode_cons, List.length_append, String.length_utf8EncodeChar]

/-- A head that fills some octets begins with the first character. -/
lemma head_of_cons_iff {c : Char} {cs ds : List Char} {n : Nat} :
    ds <+: c :: cs ∧ (Utf8.encode ds).length = n + 1 ↔
      ∃ rest, c :: rest = ds ∧ rest <+: cs ∧
        c.utf8Size + (Utf8.encode rest).length = n + 1 := by
  constructor
  · rintro ⟨hstart, hlength⟩
    cases ds with
    | nil => cases hlength
    | cons d ds =>
        obtain ⟨rfl, hrest⟩ := List.cons_prefix_cons.1 hstart
        exact ⟨ds, rfl, hrest, by rw [← Utf8.length_encode_cons, hlength]⟩
  · rintro ⟨rest, rfl, hrest, hlength⟩
    exact ⟨List.cons_prefix_cons.2 ⟨rfl, hrest⟩, by rw [Utf8.length_encode_cons, hlength]⟩

/-- There is at most one head of a text that fills a number of octets, and it is taken. -/
theorem takeOctets?_eq_some_iff {cs ds : List Char} {n : Nat} :
    takeOctets? cs n = some ds ↔ ds <+: cs ∧ (Utf8.encode ds).length = n := by
  induction cs, n using takeOctets?.induct generalizing ds with
  | case1 cs =>
      rw [takeOctets?, Option.some.injEq]
      constructor
      · rintro rfl
        exact ⟨List.nil_prefix, rfl⟩
      · rintro ⟨-, hlength⟩
        cases ds with
        | nil => rfl
        | cons d ds =>
            have := d.utf8Size_pos
            rw [Utf8.length_encode_cons] at hlength
            omega
  | case2 n =>
      rw [takeOctets?]
      refine iff_of_false nofun ?_
      rintro ⟨hstart, hlength⟩
      rw [List.prefix_nil.1 hstart] at hlength
      cases hlength
  | case3 c cs n hsize ih =>
      rw [takeOctets?, if_pos hsize, Option.map_eq_some_iff, head_of_cons_iff]
      refine exists_congr fun rest => ?_
      rw [ih, and_comm]
      refine and_congr_right fun _ => and_congr_right fun _ => ?_
      omega
  | case4 c cs n hsize =>
      -- the character lies across the cut, so no head ends there
      rw [takeOctets?, if_neg hsize, head_of_cons_iff]
      refine iff_of_false nofun ?_
      rintro ⟨rest, -, -, hlength⟩
      omega

/-- `IsShortForm hash short` says that `short` is the short form of a commit identifier: seven
octets at the head of what is left without the blanks around it, or all of that if no seven octets
at its head are whole characters. -/
def IsShortForm (hash short : String) : Prop :=
  ∃ whole, IsTrimmed hash.toList whole ∧ short.toList <+: whole ∧
    ((Octets.ofString short).length = 7 ∨
      short.toList = whole ∧ ∀ head, head <+: whole → (Utf8.encode head).length ≠ 7)

theorem isShortForm_iff {hash short : String} :
    IsShortForm hash short ↔ shortCommit hash = short := by
  simp only [IsShortForm, isTrimmed_iff, exists_eq_left']
  rw [shortCommit, ← String.toList_inj, String.toList_ofList]
  cases hcut : takeOctets? (trim hash.toList) 7 with
  | none =>
      have hnone : ∀ head, head <+: trim hash.toList → (Utf8.encode head).length ≠ 7 := by
        intro head hhead hlength
        rw [takeOctets?_eq_some_iff.2 ⟨hhead, hlength⟩] at hcut
        cases hcut
      rw [Option.getD_none]
      constructor
      · rintro ⟨hstart, hlength | ⟨heq, -⟩⟩
        · exact absurd hlength (hnone _ hstart)
        · exact heq.symm
      · intro heq
        rw [← heq]
        exact ⟨List.prefix_rfl, Or.inr ⟨rfl, hnone⟩⟩
  | some cut =>
      obtain ⟨hstart, hlength⟩ := takeOctets?_eq_some_iff.1 hcut
      rw [Option.getD_some]
      constructor
      · rintro ⟨hshort, hseven | ⟨-, hnone⟩⟩
        · have hsame := takeOctets?_eq_some_iff.2 ⟨hshort, hseven⟩
          exact Option.some.inj (hcut.symm.trans hsame)
        · exact absurd hlength (hnone _ hstart)
      · rintro rfl
        exact ⟨hstart, Or.inl hlength⟩

/-! ### The name of a build in a header -/

lemma forall_isValueOctet_iff {c : Char} : (∀ b ∈ String.utf8EncodeChar c, isValueOctet b) ↔
    (0x20 ≤ c.toNat ∨ c = '\t') ∧ c.toNat ≠ 0x7F := by
  by_cases hascii : c.toNat < 128
  · rw [Utf8.utf8EncodeChar_of_ascii hascii, List.forall_mem_singleton]
    exact forall_ascii (P := fun c => isValueOctet c.toUInt8 ↔
      (0x20 ≤ c.toNat ∨ c = '\t') ∧ c.toNat ≠ 0x7F) (by decide) hascii
  · refine iff_of_true (fun b hb => ?_) ⟨Or.inl (by omega), by omega⟩
    have hhigh := Utf8.le_of_mem_utf8EncodeChar (Nat.le_of_not_lt hascii) hb
    revert hhigh
    exact forall_octet (P := fun b => 0x80 ≤ b → isValueOctet b)
      (by decide +kernel) b

/-- A text may be the value of a header if it has no control character but the tab. -/
theorem isValue_ofString_iff {s : String} : isValue (Octets.ofString s) ↔
    ∀ c ∈ s.toList, (0x20 ≤ c.toNat ∨ c = '\t') ∧ c.toNat ≠ 0x7F := by
  simp only [isValue, Octets.ofString, Utf8.encode, List.all_eq_true, List.mem_flatMap,
    forall_exists_index, and_imp, ← forall_isValueOctet_iff]
  exact ⟨fun h c hc b hb => h b c hc hb, fun h b c hc hb => h c hc b hb⟩

lemma appId_current (commit? : Option String) : (Health.current commit?).appId =
    "status-pages/0.1.0+" ++ shortCommit (commit?.getD "unknown") := by
  have hprogram : "status-pages" ++ "/" ++ "0.1.0" ++ "+" = "status-pages/0.1.0+" := by decide
  rw [Health.appId, Health.current, Health.program, Health.release, hprogram]

/-- Every build can be named that comes from a commit without control characters in its
identifier. -/
theorem isValue_appId_of_commit {commit? : Option String}
    (h : ∀ hash ∈ commit?, ∀ c ∈ hash.toList, 0x20 ≤ c.toNat ∧ c.toNat ≠ 0x7F) :
    isValue (.ofString (Health.current commit?).appId) := by
  have hknown : ∀ c ∈ (commit?.getD "unknown").toList, 0x20 ≤ c.toNat ∧ c.toNat ≠ 0x7F := by
    cases commit? with
    | none =>
        rw [Option.getD_none, String.toList_ofList, ← List.forall_iff_forall_mem]
        decide
    | some hash => exact h hash rfl
  -- the short form is a stretch of the identifier
  have hshort : ∀ c ∈ (shortCommit (commit?.getD "unknown")).toList,
      0x20 ≤ c.toNat ∧ c.toNat ≠ 0x7F := by
    obtain ⟨whole, htrimmed, hstart, -⟩ := isShortForm_iff.2 rfl
    obtain ⟨before, after, hhash, -⟩ := htrimmed.exists_blanks
    intro c hc
    refine hknown c ?_
    rw [hhash]
    exact List.mem_append_left _ (List.mem_append_right _ (hstart.subset hc))
  have hrelease : ∀ c ∈ "status-pages/0.1.0+".toList,
      (0x20 ≤ c.toNat ∨ c = '\t') ∧ c.toNat ≠ 0x7F := by
    rw [String.toList_ofList, ← List.forall_iff_forall_mem]
    decide
  rw [isValue_ofString_iff, appId_current, String.toList_append]
  intro c hc
  rcases List.mem_append.1 hc with hc | hc
  · exact hrelease c hc
  · obtain ⟨hvisible, hdelete⟩ := hshort c hc
    exact ⟨Or.inl hvisible, hdelete⟩

/-- A build from a known commit can be named. -/
lemma isValue_appId_of_hash : isValue (.ofString (Health.current "0123456789abcdef").appId) := by
  refine isValue_appId_of_commit fun hash hhash => ?_
  obtain rfl := Option.some.inj hhash
  rw [String.toList_ofList, ← List.forall_iff_forall_mem]
  decide

end ResultPages
