/-
Identifiers that sort by the time at which they were made.

An identifier is a number of 128 bits: 48 bits of time in milliseconds, then 80 random bits.
It is written with 26 digits of base 32, without the letters that look like digits or spell
words.
-/

namespace ResultPages

/-- An identifier. -/
structure Ulid where
  /-- The number: the time, then the random bits. -/
  bits : BitVec 128
deriving DecidableEq, Repr

namespace Ulid

/-- The identifier for a time in milliseconds and a random number. -/
def ofParts (milliseconds random : Nat) : Ulid :=
  ⟨BitVec.ofNat 48 milliseconds ++ BitVec.ofNat 80 random⟩

/-- The thirty-two digits. -/
def alphabet : List Char := "0123456789ABCDEFGHJKMNPQRSTVWXYZ".toList

/-- The digit with a given value. -/
def digit (n : Nat) : Char := (alphabet[n]?).getD '0'

/-- The identifier as text, the highest digit first. -/
def toText (u : Ulid) : String :=
  String.ofList ((List.range 26).map fun i => digit (u.bits.toNat >>> (5 * (25 - i)) % 32))

/-- The text of an identifier has twenty-six characters. -/
theorem length_toText (u : Ulid) : u.toText.length = 26 := by
  simp [toText]

end Ulid

end ResultPages
