/-
Ports in decimal digits.

A port is read as a signed number first.  All numbers of ports are numbers of 64 bits, so that
refuses none of them, and the texts that are read as a port are the decimal numbers, with a sign
or without one, that lie in the range (`port_eq_ok_iff`).  So a port is read back from the text
that prints it (`port_repr`).
-/
import ResultPages.CommandLine.Value
import ResultPages.Proofs.Text.Number

namespace ResultPages

namespace Value

/-- A text is read as a port exactly if it spells a number in range. -/
theorem port_eq_ok_iff {s : String} {n : Nat} :
    port s = .ok n ↔ IsInteger s.toList n ∧ n ≤ 65535 := by
  have hread : ∀ z, Number.int64 s.toList = .ok z ∧ 0 ≤ z ∧ z ≤ 65535 ↔
      IsInteger s.toList z ∧ 0 ≤ z ∧ z ≤ 65535 := by
    intro z
    rw [Number.int64_eq_ok_iff]
    constructor
    · exact fun ⟨⟨h, _⟩, hrange⟩ => ⟨h, hrange⟩
    · exact fun ⟨h, hrange⟩ => ⟨⟨h, by omega, by omega⟩, hrange⟩
  have hn : IsInteger s.toList n ∧ n ≤ 65535 ↔
      IsInteger s.toList n ∧ 0 ≤ (n : Int) ∧ (n : Int) ≤ 65535 := by
    refine and_congr_right fun _ => ?_
    omega
  rw [hn, ← hread, port]
  cases Number.int64 s.toList with
  | error e => simp
  | ok z =>
      simp only [Except.ok.injEq]
      split
      · next hz =>
        rw [Except.ok.injEq]
        omega
      · next hz =>
        refine iff_of_false nofun ?_
        rintro ⟨rfl, hrange⟩
        exact hz hrange

/-- A port is read back as it is printed. -/
theorem port_repr {n : Nat} (h : n ≤ 65535) : port (Nat.repr n) = .ok n := by
  rw [port_eq_ok_iff, Nat.repr, String.toList_ofList]
  exact ⟨.natural (.bare (isDecimal_toDigits n)), h⟩

end Value

end ResultPages
