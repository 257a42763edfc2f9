/-
UTF-8, written and read.

A text is written one character after the other.  Octets that come from outside need not
be UTF-8; they are read as a sequence of *units*, where a unit is either a character or a
*broken* piece: the longest stretch of octets at that place that begins some character and
goes on to none.  From the units both readings follow:

* `decode?` is the strict one, it fails when some unit is broken;
* `lossy` puts the replacement character U+FFFD in the place of each broken unit.

What may stand after a first octet is said once, by `Lead`; the bounds on the second octet
exclude overlong forms, surrogates and everything above U+10FFFF.
-/

namespace ResultPages

/-- A sequence of octets: a command line argument, a query, the value of a header. -/
abbrev Octets : Type := List UInt8

namespace Utf8

/-- The UTF-8 form of a text. -/
def encode (cs : List Char) : Octets := cs.flatMap String.utf8EncodeChar

@[simp] theorem encode_nil : encode [] = [] := rfl

@[simp] theorem encode_cons (c : Char) (cs : List Char) :
    encode (c :: cs) = String.utf8EncodeChar c ++ encode cs := rfl

@[simp] theorem encode_append (cs ds : List Char) :
    encode (cs ++ ds) = encode cs ++ encode ds := List.flatMap_append

/-- What the first octet of a character says about the octets after it. -/
structure Lead where
  /-- The leading bits of the code point. -/
  bits : Nat
  /-- The smallest octet that may come second. -/
  low : UInt8
  /-- The largest octet that may come second. -/
  high : UInt8
  /-- The number of octets that follow. -/
  more : Nat
deriving DecidableEq, Repr

/-- The octets that can begin a character. -/
def lead? (b : UInt8) : Option Lead :=
  if b < 0x80 then some ⟨b.toNat, 0x80, 0xBF, 0⟩
  else if b < 0xC2 then none
  else if b < 0xE0 then some ⟨b.toNat - 0xC0, 0x80, 0xBF, 1⟩
  else if b = 0xE0 then some ⟨0, 0xA0, 0xBF, 2⟩
  else if b = 0xED then some ⟨0xD, 0x80, 0x9F, 2⟩
  else if b < 0xF0 then some ⟨b.toNat - 0xE0, 0x80, 0xBF, 2⟩
  else if b = 0xF0 then some ⟨0, 0x90, 0xBF, 3⟩
  else if b < 0xF4 then some ⟨b.toNat - 0xF0, 0x80, 0xBF, 3⟩
  else if b = 0xF4 then some ⟨4, 0x80, 0x8F, 3⟩
  else none

/-- Reads `n` more octets onto the bits `v`, the next one between `low` and `high` and the
others free.  It stops in front of the first octet that does not fit. -/
def follow : Nat → Nat → UInt8 → UInt8 → Octets → Option Nat × Octets
  | 0, v, _, _, bs => (some v, bs)
  | _ + 1, _, _, _, [] => (none, [])
  | n + 1, v, low, high, b :: bs =>
    if low ≤ b ∧ b ≤ high then follow n (v * 64 + (b.toNat - 0x80)) 0x80 0xBF bs
    else (none, b :: bs)

theorem length_follow_le (n v : Nat) (low high : UInt8) (bs : Octets) :
    (follow n v low high bs).2.length ≤ bs.length := by
  induction n generalizing v low high bs with
  | zero => simp [follow]
  | succ n ih =>
    cases bs with
    | nil => simp [follow]
    | cons b bs =>
      rw [follow]
      split
      · exact Nat.le_succ_of_le (ih ..)
      · exact Nat.le_refl _

/-- The unit at the head of `b :: bs`, and the octets after it. -/
def unit (b : UInt8) (bs : Octets) : Option Char × Octets :=
  match lead? b with
  | none => (none, bs)
  | some l =>
    let read := follow l.more l.bits l.low l.high bs
    (read.1.map Char.ofNat, read.2)

theorem length_unit_le (b : UInt8) (bs : Octets) : (unit b bs).2.length ≤ bs.length := by
  unfold unit
  split
  · exact Nat.le_refl _
  · exact length_follow_le ..

/-- The units of a sequence of octets; `none` is a broken one. -/
def units : Octets → List (Option Char)
  | [] => []
  | b :: bs => (unit b bs).1 :: units (unit b bs).2
termination_by bs => bs.length
decreasing_by exact Nat.lt_succ_of_le (length_unit_le b bs)

/-- Strict reading. -/
def decode? (bs : Octets) : Option (List Char) := (units bs).mapM id

/-- Reading that never fails: each broken unit becomes U+FFFD. -/
def lossy (bs : Octets) : List Char := (units bs).map (·.getD '\uFFFD')

end Utf8

/-- The octets of a string. -/
def Octets.ofString (s : String) : Octets := Utf8.encode s.toList

/-- The string that octets spell, if they are UTF-8. -/
def Octets.toString? (bs : Octets) : Option String := (Utf8.decode? bs).map String.ofList

/-- The string that octets spell, with U+FFFD for what is not UTF-8. -/
def Octets.toStringLossy (bs : Octets) : String := String.ofList (Utf8.lossy bs)

end ResultPages
