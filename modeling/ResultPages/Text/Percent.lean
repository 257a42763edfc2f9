/-
Percent escapes: `%` and two hexadecimal digits stand for the octet with that value.

Escapes are written with capital letters and read with letters of either case.  Decoding
never fails.  A `%` without two digits after it is an octet like any other, and
the octets after it are looked at afresh, so an escape may begin right behind a stray `%`.
-/
import ResultPages.Text.Utf8

namespace ResultPages

/-- The value of a hexadecimal digit of either case. -/
def hexValue? (b : UInt8) : Option Nat :=
  if '0'.toUInt8 ≤ b ∧ b ≤ '9'.toUInt8 then some (b.toNat - 48)
  else if 'a'.toUInt8 ≤ b ∧ b ≤ 'f'.toUInt8 then some (b.toNat - 87)
  else if 'A'.toUInt8 ≤ b ∧ b ≤ 'F'.toUInt8 then some (b.toNat - 55)
  else none

namespace Percent

/-- The octet that two hexadecimal digits stand for. -/
def pair? (high low : UInt8) : Option UInt8 :=
  match hexValue? high, hexValue? low with
  | some h, some l => some (UInt8.ofNat (16 * h + l))
  | _, _ => none

/-- The escape of an octet. -/
def escape (b : UInt8) : List Char :=
  ['%', (Nat.digitChar (b.toNat / 16)).toUpper, (Nat.digitChar (b.toNat % 16)).toUpper]

/-- The octets with every escape replaced by the octet it stands for. -/
def decode : Octets → Octets
  | b :: h :: l :: bs =>
    match if b = '%'.toUInt8 then pair? h l else none with
    | some v => v :: decode bs
    | none => b :: decode (h :: l :: bs)
  | bs => bs

@[simp] theorem decode_nil : decode [] = [] := by simp [decode]

/-- An octet other than `%` stands for itself. -/
theorem decode_cons_of_ne {b : UInt8} (h : b ≠ '%'.toUInt8) (bs : Octets) :
    decode (b :: bs) = b :: decode bs := by
  match bs with
  | [] => simp [decode]
  | [c] => simp [decode]
  | c :: d :: bs => rw [decode, if_neg h]

/-- A well-formed escape stands for one octet. -/
theorem decode_escape {h l v : UInt8} (hv : pair? h l = some v) (bs : Octets) :
    decode ('%'.toUInt8 :: h :: l :: bs) = v :: decode bs := by
  rw [decode, if_pos rfl, hv]

end Percent

end ResultPages
