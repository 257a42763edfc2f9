/-
IPv4 addresses and the ways a host can spell them.

A host is an address when its last label is a number.  The address is written in one to
four parts; the last part fills all octets that the parts before it leave.  Parts are
decimal, octal after a leading `0`, or hexadecimal after `0x`; one dot may follow the last
part.  An address is printed with four decimal parts.
-/
import ResultPages.Host.Subdomain

namespace ResultPages

/-- An IPv4 address by its four octets. -/
structure Ipv4 where
  /-- The first octet. -/
  a : UInt8
  /-- The second octet. -/
  b : UInt8
  /-- The third octet. -/
  c : UInt8
  /-- The fourth octet. -/
  d : UInt8
deriving DecidableEq, Repr

namespace Ipv4

/-- The address with a given number. -/
def ofNat (n : Nat) : Ipv4 :=
  ⟨UInt8.ofNat (n / 0x1000000), UInt8.ofNat (n / 0x10000), UInt8.ofNat (n / 0x100),
    UInt8.ofNat n⟩

/-- The address in four decimal parts. -/
def toText (x : Ipv4) : List Char :=
  join '.' [Nat.toDigits 10 x.a.toNat, Nat.toDigits 10 x.b.toNat, Nat.toDigits 10 x.c.toNat,
    Nat.toDigits 10 x.d.toNat]

/-! ### Numbers in a host -/

/-- The value of a digit, also of a hexadecimal one. -/
def digit? (c : Char) : Option Nat :=
  if '0' ≤ c ∧ c ≤ '9' then some (c.toNat - 48)
  else if 'a' ≤ c ∧ c ≤ 'f' then some (c.toNat - 87)
  else if 'A' ≤ c ∧ c ≤ 'F' then some (c.toNat - 55)
  else none

/-- The number that digits below `base` spell; no digits spell zero. -/
def digits? (base : Nat) (cs : List Char) : Option Nat :=
  cs.foldlM (fun n c => (digit? c).bind fun d => if d < base then some (n * base + d) else none) 0

/-- The number that a part of an address spells. -/
def part? : List Char → Option Nat
  | [] => none
  | ['0'] => some 0
  | '0' :: 'x' :: cs => digits? 16 cs
  | '0' :: 'X' :: cs => digits? 16 cs
  | '0' :: cs => digits? 8 cs
  | cs => digits? 10 cs

/-- The parts of a host, without the empty one behind a last dot. -/
def parts (host : List Char) : List (List Char) :=
  let ps := labels host
  if ps.getLast? = some [] then ps.dropLast else ps

/-- Whether a host must be read as an address: its last part is a number, also one that is
no part of any address. -/
def isNumeric (host : List Char) : Bool :=
  match (parts host).getLast? with
  | none => false
  | some p => (!p.isEmpty && p.all Char.isDigit) || (part? p).isSome

/-- The number of the address with the given parts, the first part leading. -/
def value? (ps : List Nat) : Option Nat :=
  match ps.getLast? with
  | none => none
  | some last =>
    let firsts := ps.dropLast
    let room := 1 <<< (8 * (4 - firsts.length))
    if 3 < firsts.length then none
    else if firsts.any (255 < ·) then none
    else if room ≤ last then none
    else some (firsts.foldl (fun n x => n * 256 + x) 0 * room + last)

/-- The address that a host spells. -/
def ofText? (host : List Char) : Option Ipv4 :=
  ((parts host).mapM part?).bind value? |>.map ofNat

end Ipv4

end ResultPages
