/-
IPv6 addresses.

An address has eight pieces of sixteen bits.  It is written as hexadecimal groups between
colons; `::` stands for one or more groups of zeros and may be used once.  The last two
groups can be written as four decimal octets.  An address is printed in lower case, without
leading zeros, and `::` takes the place of the first longest run of two or more zeros.
-/
import ResultPages.Host.Ipv4

namespace ResultPages

/-- An IPv6 address by its eight pieces. -/
structure Ipv6 where
  /-- The pieces of sixteen bits. -/
  pieces : List UInt16
  /-- There are eight of them. -/
  length_pieces : pieces.length = 8
deriving DecidableEq, Repr

namespace Ipv6

/-! ### Reading -/

/-- One to four hexadecimal digits. -/
def group? (cs : List Char) : Option UInt16 :=
  if cs = [] ∨ 4 < cs.length then none
  else (Ipv4.digits? 16 cs).map UInt16.ofNat

/-- A decimal octet without leading zeros. -/
def octet? (cs : List Char) : Option UInt16 :=
  if cs = [] ∨ (1 < cs.length ∧ cs.head? = some '0') then none
  else (Ipv4.digits? 10 cs).bind fun n => if n < 256 then some (UInt16.ofNat n) else none

/-- The two pieces that four decimal octets fill. -/
def dotted? (cs : List Char) : Option (List UInt16) :=
  match (labels cs).mapM octet? with
  | some [a, b, c, d] => some [a * 256 + b, c * 256 + d]
  | _ => none

/-- The pieces of some groups; the last group may be dotted where `dotted` says so. -/
def groups? (dotted : Bool) : List (List Char) → Option (List UInt16)
  | [] => some []
  | [g] =>
    if dotted && g.contains '.' then dotted? g else (group? g).map ([·])
  | g :: gs =>
    match group? g, groups? dotted gs with
    | some p, some ps => some (p :: ps)
    | _, _ => none

/-- The pieces of a text of groups between colons; the empty text has none. -/
def run? (dotted : Bool) (cs : List Char) : Option (List UInt16) :=
  if cs = [] then some [] else groups? dotted (ResultPages.pieces ':' cs)

/-- What stands before and after the first `::`. -/
def cutDouble : List Char → List Char × Option (List Char)
  | [] => ([], none)
  | ':' :: ':' :: cs => ([], some cs)
  | c :: cs => (c :: (cutDouble cs).1, (cutDouble cs).2)

/-- The address that a text spells. -/
def ofText? (cs : List Char) : Option Ipv6 :=
  match cutDouble cs with
  | (whole, none) =>
    match run? true whole with
    | some ps => if h : ps.length = 8 then some ⟨ps, h⟩ else none
    | none => none
  | (left, some right) =>
    match run? false left, run? true right with
    | some ls, some rs =>
      if h : ls.length + rs.length < 8 then
        some ⟨ls ++ (List.replicate (8 - (ls.length + rs.length)) 0 ++ rs), by simp; omega⟩
      else none
    | _, _ => none

/-! ### Printing -/

/-- A piece in hexadecimal. -/
def hex (p : UInt16) : List Char := Nat.toDigits 16 p.toNat

/-- The number of zeros at the head of a list. -/
def zeros (ps : List UInt16) : Nat := (ps.takeWhile (· = 0)).length

/-- The place and the length of the first longest run of zeros. -/
def longestRun : List UInt16 → Nat × Nat
  | [] => (0, 0)
  | p :: ps =>
    let here := zeros (p :: ps)
    let later := longestRun ps
    if later.2 ≤ here then (0, here) else (later.1 + 1, later.2)

/-- The address as text. -/
def toText (x : Ipv6) : List Char :=
  let run := longestRun x.pieces
  if run.2 < 2 then join ':' (x.pieces.map hex)
  else
    join ':' ((x.pieces.take run.1).map hex) ++ [':', ':'] ++
      join ':' ((x.pieces.drop (run.1 + run.2)).map hex)

end Ipv6

end ResultPages
