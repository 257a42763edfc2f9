/-
IPv4 addresses in dotted decimal form.

Decimal octets between dots are read as an address, which the octets in front begin and the
last number fills (`Host.parse_dotted`).  Four of them are the address that they were printed for;
three of them are an address as well, and its third octet is zero.
-/
import ResultPages.Proofs.Host.Characters
import ResultPages.Proofs.Host.Numbers

namespace ResultPages

namespace Ipv4

lemma dot_not_mem_toDigits (n : Nat) : '.' ∉ Nat.toDigits 10 n := by
  intro h
  exact absurd (Nat.isDigit_of_mem_toDigits (by decide) (by decide) h) (by decide)

lemma labels_dotted {ns : List Nat} (hne : ns ≠ []) :
    labels (dotted ns) = ns.map (Nat.toDigits 10) := by
  refine pieces_join (by simpa using hne) ?_
  rintro p hp
  obtain ⟨n, -, rfl⟩ := List.mem_map.1 hp
  exact dot_not_mem_toDigits n

lemma parts_dotted {ns : List Nat} (hne : ns ≠ []) :
    parts (dotted ns) = ns.map (Nat.toDigits 10) := by
  rw [parts, labels_dotted hne]
  refine if_neg ?_
  intro hlast
  obtain ⟨n, -, hn⟩ := List.mem_map.1 (List.mem_of_getLast? hlast)
  exact Nat.toDigits_ne_nil hn

lemma isDigit_or_dot_of_mem_dotted {ns : List Nat} {c : Char} (h : c ∈ dotted ns) :
    c.isDigit ∨ c = '.' := by
  rcases mem_join_iff.1 h with ⟨rfl, -⟩ | ⟨p, hp, hc⟩
  · exact Or.inr rfl
  · obtain ⟨n, -, rfl⟩ := List.mem_map.1 hp
    exact Or.inl (Nat.isDigit_of_mem_toDigits (by decide) (by decide) hc)

lemma dotted_ne_nil {ns : List Nat} (hne : ns ≠ []) : dotted ns ≠ [] := by
  intro hnil
  have hlabels := labels_dotted hne
  rw [hnil] at hlabels
  obtain ⟨n, ns, rfl⟩ := List.exists_cons_of_ne_nil hne
  exact Nat.toDigits_ne_nil (List.cons.inj hlabels).1.symm

/-! ### Reading -/

/-- Decimal numbers between dots have to be read as an address. -/
lemma isNumeric_dotted {ns : List Nat} (hne : ns ≠ []) : isNumeric (dotted ns) = true := by
  rw [isNumeric, parts_dotted hne, List.getLast?_map, List.getLast?_eq_some_getLast hne,
    Option.map_some]
  simp only [Bool.or_eq_true, Bool.and_eq_true, Bool.not_eq_true', List.isEmpty_eq_false_iff,
    List.all_eq_true]
  refine Or.inl ⟨Nat.toDigits_ne_nil, fun c hc => ?_⟩
  exact Nat.isDigit_of_mem_toDigits (by decide) (by decide) hc

lemma ofText?_dotted {ns : List Nat} (hne : ns ≠ []) :
    ofText? (dotted ns) = (value? ns).map ofNat := by
  have hparts : (ns.map (Nat.toDigits 10)).mapM part? = some ns := by
    rw [mapM_eq_some_iff, List.map_map]
    exact List.map_congr_left fun n _ => part?_toDigits n
  rw [ofText?, parts_dotted hne, hparts, Option.bind_some]

end Ipv4

/-- Decimal numbers between dots are the address that they have the value of. -/
theorem Host.parse_dotted {ns : List Nat} {x : Ipv4} (hne : ns ≠ [])
    (hx : (Ipv4.value? ns).map Ipv4.ofNat = some x) :
    parse (Ipv4.dotted ns) = .ok (.ipv4 x) := by
  have hplain : ∀ c ∈ Ipv4.dotted ns, isPlainChar c := fun c => Ipv4.isPlainChar_of_mem_dotted
  have hlower : (Ipv4.dotted ns).map Char.toLower = Ipv4.dotted ns := by
    refine (List.map_congr_left fun c hc => ?_).trans (List.map_id _)
    rcases Ipv4.isDigit_or_dot_of_mem_dotted hc with h | rfl
    · exact toLower_of_isDigit h
    · rfl
  have hx' : 'x' ∉ Ipv4.dotted ns := by
    intro hmem
    rcases Ipv4.isDigit_or_dot_of_mem_dotted hmem with h | h <;> exact absurd h (by decide)
  have hname : Name.isPlain (Ipv4.dotted ns) :=
    Name.isPlain_of_not_mem (fun c hc => (toNat_of_isPlainChar (hplain c hc)).2) hx'
  rw [parse_of_isPlainChar hplain (Ipv4.dotted_ne_nil hne) (by rwa [hlower]), hlower, ofAscii,
    if_neg (Ipv4.dotted_ne_nil hne), if_pos (Ipv4.isNumeric_dotted hne),
    Ipv4.ofText?_dotted hne, hx]

namespace Ipv4

lemma not_large (x : UInt8) : ¬ 255 < x.toNat := by
  have := x.toNat_lt
  omega

lemma ofNat_eq {a b c d : UInt8} {n : Nat}
    (h : n = ((a.toNat * 256 + b.toNat) * 256 + c.toNat) * 256 + d.toNat) :
    ofNat n = ⟨a, b, c, d⟩ := by
  have ha := a.toNat_lt
  have hb := b.toNat_lt
  have hc := c.toNat_lt
  have hd := d.toNat_lt
  rw [ofNat, Ipv4.mk.injEq]
  refine ⟨?_, ?_, ?_, ?_⟩ <;>
  · rw [← UInt8.toNat_inj, UInt8.toNat_ofNat']
    omega

/-- An address in dotted decimal form is read as that address. -/
theorem parse_toText (x : Ipv4) : Host.parse x.toText = .ok (.ipv4 x) := by
  rw [toText_eq_dotted]
  refine Host.parse_dotted (List.cons_ne_nil _ _) ?_
  have hroom : x.d.toNat < 256 := x.d.toNat_lt
  have hvalue : value? [x.a.toNat, x.b.toNat, x.c.toNat, x.d.toNat] =
      some (((x.a.toNat * 256 + x.b.toNat) * 256 + x.c.toNat) * 256 + x.d.toNat) := by
    simp [value?, not_large, hroom]
  rw [hvalue, Option.map_some, ofNat_eq rfl]

/-- Without its first octet it is read as an address too, whose third octet is zero. -/
theorem parse_dotted_three (b c d : UInt8) :
    Host.parse (dotted [b.toNat, c.toNat, d.toNat]) = .ok (.ipv4 ⟨b, c, 0, d⟩) := by
  refine Host.parse_dotted (List.cons_ne_nil _ _) ?_
  have hroom : d.toNat < 65536 := Nat.lt_trans d.toNat_lt (by decide)
  have hvalue : value? [b.toNat, c.toNat, d.toNat] =
      some ((b.toNat * 256 + c.toNat) * 65536 + d.toNat) := by
    simp [value?, not_large, hroom]
  rw [hvalue, Option.map_some, Option.some.injEq]
  refine ofNat_eq ?_
  rw [UInt8.toNat_zero]
  omega

end Ipv4

end ResultPages
