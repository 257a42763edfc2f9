/-
The texts of IPv6 addresses.

`Ipv6.Spells` is the notation of addresses: eight groups of hexadecimal digits between colons,
or fewer of them around a double colon that stands for the zeros left out, and four decimal
octets in place of the last two groups.  The texts that are read as an address are exactly those
that stand for it in this notation (`ofText?_eq_some_iff`), and what is printed for an address is
one of them (`spells_toText`); so reading undoes printing (`ofText?_toText`).
-/
import ResultPages.Proofs.Host.Ipv4Text

namespace ResultPages

namespace Ipv6

/-! ### The notation -/

/-- One to four hexadecimal digits, of either case and with leading zeros, stand for a piece. -/
structure IsGroup (g : List Char) (p : UInt16) : Prop where
  length_le : g.length ≤ 4
  digits : ∃ k, g.map Char.toLower = List.replicate k '0' ++ Nat.toDigits 16 p.toNat

/-- Groups that stand for some pieces; the last one may be dotted where `dotted` says so. -/
inductive Groups : Bool → List (List Char) → List UInt16 → Prop
  | nil (dotted : Bool) : Groups dotted [] []
  | cons {dotted : Bool} {g : List Char} {p : UInt16} {gs : List (List Char)}
      {ps : List UInt16} (head : IsGroup g p) (tail : Groups dotted gs ps) :
      Groups dotted (g :: gs) (p :: ps)
  | quad (x : Ipv4) : Groups true [x.toText]
      [x.a.toUInt16 * 256 + x.b.toUInt16, x.c.toUInt16 * 256 + x.d.toUInt16]

/-- The texts that stand for the pieces of an address. -/
inductive Spells : List Char → List UInt16 → Prop
  | whole {gs : List (List Char)} {ps : List UInt16} (groups : Groups true gs ps)
      (length : ps.length = 8) : Spells (join ':' gs) ps
  | short {ls rs : List (List Char)} {ps qs : List UInt16} (left : Groups false ls ps)
      (right : Groups true rs qs) {n : Nat} (pos : 0 < n)
      (length : ps.length + (n + qs.length) = 8) :
      Spells (join ':' ls ++ ':' :: ':' :: join ':' rs) (ps ++ (List.replicate n 0 ++ qs))

/-! ### Groups -/

namespace IsGroup

variable {g : List Char} {p : UInt16}

lemma digits?_eq (h : IsGroup g p) : Ipv4.digits? 16 g = some p.toNat := by
  obtain ⟨k, hk⟩ := h.digits
  rw [← Ipv4.digits?_map_toLower, hk, Ipv4.digits?_replicate_append (by decide),
    Ipv4.digits?_toDigits (by decide) (by decide)]

lemma ne_nil (h : IsGroup g p) : g ≠ [] := by
  rintro rfl
  obtain ⟨k, hk⟩ := h.digits
  exact Nat.toDigits_ne_nil (List.append_eq_nil_iff.1 hk.symm).2

lemma group?_eq (h : IsGroup g p) : group? g = some p := by
  rw [group?, if_neg fun hbad => hbad.elim h.ne_nil (Nat.not_lt.2 h.length_le), h.digits?_eq,
    Option.map_some, UInt16.ofNat_toNat]

lemma isPlainChar_of_mem (h : IsGroup g p) {c : Char} (hc : c ∈ g) :
    isPlainChar c ∧ c ≠ '.' := by
  obtain ⟨d, -, hd⟩ := Ipv4.exists_of_mem_digits? h.digits?_eq hc
  exact Ipv4.isPlainChar_of_digit? hd

lemma dot_not_mem (h : IsGroup g p) : '.' ∉ g := fun hmem => (h.isPlainChar_of_mem hmem).2 rfl

end IsGroup

/-- A piece is printed as a group. -/
lemma isGroup_hex (p : UInt16) : IsGroup (hex p) p := by
  refine ⟨(Nat.length_toDigits_le_iff (by decide) (by decide)).2 p.toNat_lt, 0, ?_⟩
  have hlower : ∀ c ∈ hex p, c.toLower = c := by
    intro c hc
    obtain ⟨m, hm, rfl⟩ := exists_digitChar_of_mem_toDigits (by decide) hc
    have hall : ∀ m < 16, (Nat.digitChar m).toLower = Nat.digitChar m := by decide
    exact hall m hm
  rw [List.replicate_zero, List.nil_append, List.map_congr_left hlower, List.map_id']
  rfl

/-- A decimal number below 256 is read as an octet. -/
lemma octet?_toDigits {n : Nat} (h : n < 256) :
    octet? (Nat.toDigits 10 n) = some (UInt16.ofNat n) := by
  have hzero : ¬ (1 < (Nat.toDigits 10 n).length ∧ (Nat.toDigits 10 n).head? = some '0') := by
    rintro ⟨hlength, hhead⟩
    rcases Nat.eq_zero_or_pos n with rfl | hpos
    · exact absurd hlength (by decide)
    · exact head?_toDigits_ne (by decide) hpos hhead
  rw [octet?, if_neg fun hbad => hbad.elim Nat.toDigits_ne_nil hzero,
    Ipv4.digits?_toDigits (by decide) (by decide), Option.bind_some, if_pos h]

lemma octet?_toNat (x : UInt8) : octet? (Nat.toDigits 10 x.toNat) = some x.toUInt16 := by
  rw [octet?_toDigits x.toNat_lt, ← UInt8.toNat_toUInt16, UInt16.ofNat_toNat]

/-- Four decimal octets fill two pieces. -/
lemma dotted?_toText (x : Ipv4) : dotted? x.toText =
    some [x.a.toUInt16 * 256 + x.b.toUInt16, x.c.toUInt16 * 256 + x.d.toUInt16] := by
  rw [dotted?, Ipv4.toText_eq_dotted, Ipv4.labels_dotted (List.cons_ne_nil _ _)]
  simp only [List.map_cons, List.map_nil, List.mapM_cons, List.mapM_nil, octet?_toNat,
    Option.bind_eq_bind, Option.bind_some, Option.pure_def]

namespace Groups

variable {dotted : Bool} {gs : List (List Char)} {ps : List UInt16}

lemma ne_nil_of_mem (h : Groups dotted gs ps) {g : List Char} (hg : g ∈ gs) : g ≠ [] := by
  induction h with
  | nil => exact absurd hg List.not_mem_nil
  | cons head _ ih =>
      rcases List.mem_cons.1 hg with rfl | hg
      · exact head.ne_nil
      · exact ih hg
  | quad x =>
      rw [List.mem_singleton.1 hg, Ipv4.toText_eq_dotted]
      exact Ipv4.dotted_ne_nil (List.cons_ne_nil _ _)

lemma isPlainChar_of_mem (h : Groups dotted gs ps) {g : List Char} (hg : g ∈ gs) {c : Char}
    (hc : c ∈ g) : isPlainChar c := by
  induction h with
  | nil => exact absurd hg List.not_mem_nil
  | cons head _ ih =>
      rcases List.mem_cons.1 hg with rfl | hg
      · exact (head.isPlainChar_of_mem hc).1
      · exact ih hg
  | quad x =>
      rw [List.mem_singleton.1 hg] at hc
      exact Ipv4.isPlainChar_of_mem_toText hc

lemma colon_not_mem (h : Groups dotted gs ps) : ∀ g ∈ gs, ':' ∉ g := fun _ hg hc =>
  absurd (h.isPlainChar_of_mem hg hc) (by decide)

/-- The reader on groups. -/
lemma groups?_eq (h : Groups dotted gs ps) : groups? dotted gs = some ps := by
  induction h with
  | nil => rfl
  | @cons dotted g p gs ps head tail ih =>
      cases gs with
      | nil =>
          cases tail
          have hdot : (dotted && g.contains '.') = false := by
            rw [Bool.and_eq_false_iff]
            exact Or.inr (by simpa using head.dot_not_mem)
          rw [groups?, hdot, if_neg Bool.false_ne_true, head.group?_eq]
          rfl
      | cons g' gs =>
          rw [groups?, head.group?_eq, ih]
          simp
  | quad x =>
      have hdot : x.toText.contains '.' := by
        rw [List.contains_iff_mem, Ipv4.toText, mem_join_iff]
        exact Or.inl ⟨rfl, by simp⟩
      rw [groups?, hdot, Bool.and_self, if_pos rfl, dotted?_toText]

lemma run?_join (h : Groups dotted gs ps) : run? dotted (join ':' gs) = some ps := by
  by_cases hgs : gs = []
  · subst hgs
    cases h
    rfl
  · have hpieces := pieces_join hgs h.colon_not_mem
    rw [run?, if_neg, hpieces, h.groups?_eq]
    intro hnil
    rw [hnil] at hpieces
    refine h.ne_nil_of_mem ?_ rfl
    rw [← hpieces]
    exact List.mem_singleton_self _

end Groups

/-! ### The double colon -/

lemma cutDouble_append {g : List Char} (h : ':' ∉ g) (rest : List Char) :
    cutDouble (g ++ rest) = (g ++ (cutDouble rest).1, (cutDouble rest).2) := by
  induction g with
  | nil => rfl
  | cons c g ih =>
      rw [List.mem_cons, not_or] at h
      rw [List.cons_append, cutDouble, ih h.2]
      · rfl
      · rintro cs rfl
        exact absurd rfl h.1

/-- Between groups there is no double colon, so the first one is in what follows them. -/
lemma cutDouble_join {gs : List (List Char)} (hne : ∀ g ∈ gs, g ≠ []) (h : ∀ g ∈ gs, ':' ∉ g)
    (rest : List Char) : cutDouble (join ':' gs ++ rest) =
      (join ':' gs ++ (cutDouble rest).1, (cutDouble rest).2) := by
  induction gs with
  | nil => rfl
  | cons g gs ih =>
      have hg := h g List.mem_cons_self
      cases gs with
      | nil => exact cutDouble_append hg rest
      | cons g' gs =>
          have ih := ih (fun g hg => hne g (List.mem_cons_of_mem _ hg))
            (fun g hg => h g (List.mem_cons_of_mem _ hg))
          -- the colon behind the group is followed by the first digit of the next one
          have hcolon : ∀ cs, join ':' (g' :: gs) ++ rest ≠ ':' :: cs := by
            intro cs heq
            obtain ⟨c, g', rfl⟩ :=
              List.exists_cons_of_ne_nil (hne g' (List.mem_cons_of_mem _ List.mem_cons_self))
            refine h (c :: g') (List.mem_cons_of_mem _ List.mem_cons_self) ?_
            have hhead : c = ':' := by
              cases gs <;> exact (List.cons.inj heq).1
            rw [hhead]
            exact List.mem_cons_self
          have hstep : cutDouble (':' :: (join ':' (g' :: gs) ++ rest)) =
              (':' :: (cutDouble (join ':' (g' :: gs) ++ rest)).1,
                (cutDouble (join ':' (g' :: gs) ++ rest)).2) := by
            rw [cutDouble]
            exact fun cs _ heq => hcolon cs heq
          rw [join, List.append_assoc, cutDouble_append hg, List.cons_append, hstep, ih]
          simp

/-! ### Reading -/

/-- What stands for an address is read as that address. -/
theorem ofText?_of_spells {cs : List Char} {x : Ipv6} (h : Spells cs x.pieces) :
    ofText? cs = some x := by
  obtain ⟨xs, hxs⟩ := x
  simp only at h
  cases h with
  | @whole gs _ groups _ =>
      have hcut := cutDouble_join (fun _ => groups.ne_nil_of_mem) groups.colon_not_mem []
      rw [List.append_nil] at hcut
      rw [ofText?, hcut]
      simp only [cutDouble, List.append_nil, groups.run?_join, dif_pos hxs]
  | @short ls rs ps qs left right n pos length =>
      have hcut := cutDouble_join (fun _ => left.ne_nil_of_mem) left.colon_not_mem
        (':' :: ':' :: join ':' rs)
      have hlt : ps.length + qs.length < 8 := by omega
      have hn : 8 - (ps.length + qs.length) = n := by omega
      rw [ofText?, hcut]
      simp only [cutDouble, List.append_nil, left.run?_join, right.run?_join, dif_pos hlt, hn]

/-! ### Only the notation is read -/

lemma isGroup_of_group? {g : List Char} {p : UInt16} (h : group? g = some p) : IsGroup g p := by
  rw [group?] at h
  split at h
  · cases h
  · next hg =>
    rw [not_or] at hg
    obtain ⟨n, hn, rfl⟩ := Option.map_eq_some_iff.1 h
    obtain ⟨k, hk⟩ := Ipv4.exists_of_digits? (by decide) hg.1 hn
    have hlength : (Nat.toDigits 16 n).length ≤ 4 := by
      have := congrArg List.length hk
      simp only [List.length_map, List.length_append, List.length_replicate] at this
      omega
    have hlt : n < 16 ^ 4 := (Nat.length_toDigits_le_iff (by decide) (by decide)).1 hlength
    refine ⟨by omega, k, ?_⟩
    rw [hk, UInt16.toNat_ofNat_of_lt' hlt]

lemma exists_of_octet? {g : List Char} {p : UInt16} (h : octet? g = some p) :
    ∃ x : UInt8, g = Nat.toDigits 10 x.toNat ∧ p = x.toUInt16 := by
  rw [octet?] at h
  split at h
  · cases h
  · next hg =>
    rw [not_or, not_and] at hg
    obtain ⟨n, hn, h⟩ := Option.bind_eq_some_iff.1 h
    split at h
    · next hlt =>
      obtain rfl := Option.some.inj h
      obtain ⟨k, hk⟩ := Ipv4.exists_of_digits? (by decide) hg.1 hn
      have hlower : g.map Char.toLower = g := by
        refine (List.map_congr_left fun c hc => ?_).trans (List.map_id _)
        obtain ⟨d, hd, hc⟩ := Ipv4.exists_of_mem_digits? hn hc
        exact toLower_of_isDigit (Ipv4.isDigit_of_digit? hc hd)
      rw [hlower] at hk
      have hx : (UInt8.ofNat n).toNat = n := UInt8.toNat_ofNat_of_lt' hlt
      refine ⟨UInt8.ofNat n, ?_, ?_⟩
      · rw [hx]
        cases k with
        | zero => simpa using hk
        | succ k =>
            -- a zero in front would be a superfluous one
            have hpos := Nat.length_toDigits_pos (b := 10) (n := n)
            refine absurd ?_ (hg.2 ?_)
            · rw [hk]
              rfl
            · have := congrArg List.length hk
              simp only [List.length_append, List.length_replicate] at this
              omega
      · rw [← UInt16.toNat_inj, UInt8.toNat_toUInt16, hx, UInt16.toNat_ofNat_of_lt'
          (Nat.lt_trans hlt (by decide))]
    · cases h

lemma exists_of_dotted? {cs : List Char} {ps : List UInt16} (h : dotted? cs = some ps) :
    ∃ x : Ipv4, cs = x.toText ∧
      ps = [x.a.toUInt16 * 256 + x.b.toUInt16, x.c.toUInt16 * 256 + x.d.toUInt16] := by
  rw [dotted?] at h
  split at h
  · next p q r s hoctets =>
    obtain rfl := Option.some.inj h
    have hjoin : cs = join '.' (labels cs) := (join_pieces '.' cs).symm
    rw [mapM_eq_some_iff] at hoctets
    simp only [List.map_cons, List.map_nil, List.map_eq_cons_iff, List.map_eq_nil_iff] at hoctets
    obtain ⟨g₁, _, hlabels, h₁, g₂, _, rfl, h₂, g₃, _, rfl, h₃, g₄, _, rfl, h₄, rfl⟩ := hoctets
    obtain ⟨a, rfl, rfl⟩ := exists_of_octet? h₁
    obtain ⟨b, rfl, rfl⟩ := exists_of_octet? h₂
    obtain ⟨c, rfl, rfl⟩ := exists_of_octet? h₃
    obtain ⟨d, rfl, rfl⟩ := exists_of_octet? h₄
    rw [hlabels] at hjoin
    exact ⟨⟨a, b, c, d⟩, hjoin, rfl⟩
  · cases h

lemma groups_of_groups? {dotted : Bool} {gs : List (List Char)} {ps : List UInt16}
    (h : groups? dotted gs = some ps) : Groups dotted gs ps := by
  induction gs generalizing ps with
  | nil =>
      obtain rfl := Option.some.inj h
      exact Groups.nil dotted
  | cons g gs ih =>
      cases gs with
      | nil =>
          rw [groups?] at h
          split at h
          · next hdot =>
            obtain ⟨rfl, -⟩ := Bool.and_eq_true_iff.1 hdot
            obtain ⟨x, rfl, rfl⟩ := exists_of_dotted? h
            exact Groups.quad x
          · obtain ⟨p, hp, rfl⟩ := Option.map_eq_some_iff.1 h
            exact Groups.cons (isGroup_of_group? hp) (Groups.nil dotted)
      | cons g' gs =>
          rw [groups?] at h
          · split at h
            · next p ps' hp hps =>
              obtain rfl := Option.some.inj h
              exact Groups.cons (isGroup_of_group? hp) (ih hps)
            · cases h
          · simp

lemma exists_of_run? {dotted : Bool} {cs : List Char} {ps : List UInt16}
    (h : run? dotted cs = some ps) : ∃ gs, cs = join ':' gs ∧ Groups dotted gs ps := by
  rw [run?] at h
  split at h
  · next hnil =>
    obtain rfl := Option.some.inj h
    exact ⟨[], hnil, Groups.nil dotted⟩
  · exact ⟨ResultPages.pieces ':' cs, (join_pieces ':' cs).symm, groups_of_groups? h⟩

lemma cutDouble_spec (cs : List Char) :
    cs = (cutDouble cs).1 ++ ((cutDouble cs).2.map (':' :: ':' :: ·)).getD [] := by
  induction cs using cutDouble.induct with
  | case1 => rfl
  | case2 cs => rfl
  | case3 c cs hc ih =>
      rw [cutDouble, List.cons_append, ← ih]
      exact hc

/-- An address is read from exactly the texts that stand for it. -/
theorem ofText?_eq_some_iff {cs : List Char} {x : Ipv6} :
    ofText? cs = some x ↔ Spells cs x.pieces := by
  refine ⟨fun h => ?_, ofText?_of_spells⟩
  have hcs := cutDouble_spec cs
  rw [ofText?] at h
  split at h
  · next whole hcut =>
    rw [hcut] at hcs
    split at h
    · next ps hrun =>
      split at h
      · next hlength =>
        obtain rfl := Option.some.inj h
        obtain ⟨gs, rfl, groups⟩ := exists_of_run? hrun
        rw [hcs]
        simpa using Spells.whole groups hlength
      · cases h
    · cases h
  · next left right hcut =>
    rw [hcut] at hcs
    split at h
    · next ls rs hleft hright =>
      split at h
      · next hlength =>
        obtain rfl := Option.some.inj h
        obtain ⟨gs, rfl, groups⟩ := exists_of_run? hleft
        obtain ⟨gs', rfl, groups'⟩ := exists_of_run? hright
        rw [hcs]
        exact Spells.short groups groups' (by omega) (by omega)
      · cases h
    · cases h

/-! ### Characters -/

lemma Groups.isPlainChar_or_colon {dotted : Bool} {gs : List (List Char)} {ps : List UInt16}
    (h : Groups dotted gs ps) {c : Char} (hc : c ∈ join ':' gs) : isPlainChar c ∨ c = ':' := by
  rcases mem_join_iff.1 hc with ⟨rfl, -⟩ | ⟨g, hg, hc⟩
  · exact Or.inr rfl
  · exact Or.inl (h.isPlainChar_of_mem hg hc)

lemma Groups.dot_not_mem {gs : List (List Char)} {ps : List UInt16} (h : Groups false gs ps) :
    '.' ∉ join ':' gs := by
  have hgroups : ∀ g ∈ gs, '.' ∉ g := by
    generalize hdotted : false = dotted at h
    induction h with
    | nil => exact fun g hg => absurd hg List.not_mem_nil
    | cons head _ ih => exact List.forall_mem_cons.2 ⟨head.dot_not_mem, ih hdotted⟩
    | quad => cases hdotted
  intro hdot
  rcases mem_join_iff.1 hdot with ⟨hcolon, -⟩ | ⟨g, hg, hdot⟩
  · exact absurd hcolon (by decide)
  · exact hgroups g hg hdot

/-- Only octets stand for two pieces. -/
lemma Groups.length_le {dotted : Bool} {gs : List (List Char)} {ps : List UInt16}
    (h : Groups dotted gs ps) : ps.length ≤ gs.length + 1 := by
  induction h with
  | nil => exact Nat.zero_le _
  | cons _ _ ih => exact Nat.succ_le_succ ih
  | quad => exact Nat.le_refl _

/-- The dots of groups are those of the octets at their end. -/
lemma Groups.exists_quad {dotted : Bool} {gs : List (List Char)} {ps : List UInt16}
    (h : Groups dotted gs ps) (hdot : '.' ∈ join ':' gs) :
    ∃ (front : List Char) (x : Ipv4), join ':' gs = front ++ x.toText ∧ '.' ∉ front := by
  induction h with
  | nil => exact absurd hdot List.not_mem_nil
  | @cons dotted g p gs ps head tail ih =>
      cases gs with
      | nil => exact absurd hdot head.dot_not_mem
      | cons g' gs =>
          rw [join, List.mem_append, List.mem_cons] at hdot
          rcases hdot with hdot | hdot | hdot
          · exact absurd hdot head.dot_not_mem
          · exact absurd hdot (by decide)
          · obtain ⟨front, x, heq, hfront⟩ := ih hdot
            refine ⟨g ++ ':' :: front, x, ?_, ?_⟩
            · rw [join, heq, List.append_assoc, List.cons_append]
            · rw [List.mem_append, List.mem_cons, not_or, not_or]
              exact ⟨head.dot_not_mem, by decide, hfront⟩
  | quad x => exact ⟨[], x, rfl, List.not_mem_nil⟩

namespace Spells

variable {cs : List Char} {ps : List UInt16}

/-- What stands in the text of an address. -/
lemma isPlainChar_or_colon (h : Spells cs ps) {c : Char} (hc : c ∈ cs) :
    isPlainChar c ∨ c = ':' := by
  cases h with
  | whole groups => exact groups.isPlainChar_or_colon hc
  | short left right =>
      rw [List.mem_append, List.mem_cons, List.mem_cons] at hc
      rcases hc with hc | hc | hc | hc
      · exact left.isPlainChar_or_colon hc
      · exact Or.inr hc
      · exact Or.inr hc
      · exact right.isPlainChar_or_colon hc

/-- There is a colon in every text of an address. -/
lemma colon_mem (h : Spells cs ps) : ':' ∈ cs := by
  cases h with
  | whole groups length =>
      have hlength := groups.length_le
      exact mem_join_iff.2 (Or.inl ⟨rfl, by omega⟩)
  | short => exact List.mem_append_right _ List.mem_cons_self

/-- A text with dots ends in four octets, and no dot stands before them. -/
lemma exists_quad (h : Spells cs ps) (hdot : '.' ∈ cs) :
    ∃ (front : List Char) (x : Ipv4), cs = front ++ x.toText ∧ '.' ∉ front := by
  cases h with
  | whole groups => exact groups.exists_quad hdot
  | @short ls rs _ _ left right =>
      rw [List.mem_append, List.mem_cons, List.mem_cons] at hdot
      rcases hdot with hdot | hdot | hdot | hdot
      · exact absurd hdot left.dot_not_mem
      · exact absurd hdot (by decide)
      · exact absurd hdot (by decide)
      · obtain ⟨front, x, heq, hfront⟩ := right.exists_quad hdot
        refine ⟨join ':' ls ++ ':' :: ':' :: front, x, ?_, ?_⟩
        · rw [heq, List.append_assoc, List.cons_append, List.cons_append]
        · rw [List.mem_append, List.mem_cons, List.mem_cons, not_or, not_or, not_or]
          exact ⟨left.dot_not_mem, by decide, by decide, hfront⟩

/-- In brackets it is read as a host. -/
theorem parse_brackets {x : Ipv6} (h : Spells cs x.pieces) :
    Host.parse ('[' :: (cs ++ [']'])) = .ok (.ipv6 x) := by
  rw [Host.parse, Host.ofBracketed, List.getLast?_concat, if_pos rfl, List.dropLast_concat,
    ofText?_of_spells h]

end Spells

/-! ### Printing -/

lemma groups_hex (dotted : Bool) (ps : List UInt16) : Groups dotted (ps.map hex) ps := by
  induction ps with
  | nil => exact Groups.nil dotted
  | cons p ps ih => exact Groups.cons (isGroup_hex p) ih

lemma exists_eq_replicate_append (ps : List UInt16) :
    ∃ back, ps = List.replicate (zeros ps) 0 ++ back := by
  refine ⟨ps.dropWhile (· = 0), ?_⟩
  have htake : ps.takeWhile (· = 0) = List.replicate (zeros ps) 0 := by
    rw [List.eq_replicate_iff]
    refine ⟨rfl, fun p hp => ?_⟩
    simpa using List.mem_takeWhile_imp hp
  rw [← htake, List.takeWhile_append_dropWhile]

/-- There are zeros where the longest run of them is said to be. -/
lemma longestRun_spec (ps : List UInt16) : ∃ front back,
    ps = front ++ (List.replicate (longestRun ps).2 0 ++ back) ∧
      front.length = (longestRun ps).1 := by
  induction ps with
  | nil => exact ⟨[], [], rfl, rfl⟩
  | cons p ps ih =>
      rw [longestRun]
      split
      · obtain ⟨back, hback⟩ := exists_eq_replicate_append (p :: ps)
        exact ⟨[], back, hback, rfl⟩
      · obtain ⟨front, back, hps, hlength⟩ := ih
        exact ⟨p :: front, back, congrArg (p :: ·) hps, congrArg (· + 1) hlength⟩

/-- What is printed for an address stands for it. -/
theorem spells_toText (x : Ipv6) : Spells x.toText x.pieces := by
  obtain ⟨front, back, hpieces, hfront⟩ := longestRun_spec x.pieces
  have hlength := x.length_pieces
  rw [toText]
  generalize longestRun x.pieces = run at hpieces hfront
  split
  · exact Spells.whole (groups_hex true _) hlength
  · next hlong =>
    rw [hpieces] at hlength ⊢
    have hback : (front ++ (List.replicate run.2 0 ++ back)).drop (run.1 + run.2) = back := by
      simp [← hfront]
    have htake : (front ++ (List.replicate run.2 0 ++ back)).take run.1 = front := by
      simp [← hfront]
    rw [htake, hback, List.append_assoc]
    refine Spells.short (groups_hex false front) (groups_hex true back) (by omega) ?_
    simpa using hlength

/-- No octets are printed. -/
lemma dot_not_mem_toText (x : Ipv6) : '.' ∉ x.toText := by
  have hrow : ∀ ps : List UInt16, '.' ∉ join ':' (ps.map hex) := fun ps =>
    (groups_hex false ps).dot_not_mem
  rw [toText]
  split
  · exact hrow _
  · rw [List.mem_append, List.mem_append, not_or, not_or]
    exact ⟨⟨hrow _, by decide⟩, hrow _⟩

/-- Reading undoes printing. -/
theorem ofText?_toText (x : Ipv6) : ofText? x.toText = some x :=
  ofText?_eq_some_iff.2 (spells_toText x)

end Ipv6

end ResultPages
