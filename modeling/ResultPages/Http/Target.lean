/-
Request targets: the text of a request that says what is asked for.

A target is a path with an optional query, an asterisk, an authority (a host with an optional
port), or all of it behind a scheme.  What stands behind `#` is dropped unseen.  A path and a
query may hold any octet above ASCII; an authority may not.

Only the path and the query matter to the service.  A target that is an authority alone has
the empty path; behind a scheme and an authority the empty path counts as `/`.
-/
import ResultPages.Text.Utf8

namespace ResultPages

/-- The parts of a request target. -/
structure Target where
  /-- The scheme; empty if there is none. -/
  scheme : Octets
  /-- The authority; empty if there is none. -/
  authority : Octets
  /-- The path, as sent. -/
  path : Octets
  /-- What follows the question mark, if there is one. -/
  query : Option Octets
deriving DecidableEq, Repr

/-- Why a text is no request target. -/
inductive TargetError where
  | tooLong
  | empty
  | invalidCharacter
  | invalidFormat
  | invalidAuthority
  | schemeTooLong
deriving DecidableEq, Repr

/-- The wording of an error. -/
def TargetError.message : TargetError → String
  | tooLong => "uri too long"
  | empty => "empty string"
  | invalidCharacter => "invalid uri character"
  | invalidFormat => "invalid format"
  | invalidAuthority => "invalid authority"
  | schemeTooLong => "scheme too long"

/-- A letter or a digit of ASCII. -/
def isAlphanumeric (b : UInt8) : Bool :=
  ('0'.toUInt8 ≤ b && b ≤ '9'.toUInt8) || ('A'.toUInt8 ≤ b && b ≤ 'Z'.toUInt8) ||
    ('a'.toUInt8 ≤ b && b ≤ 'z'.toUInt8)

/-- Whether an octet is one of the characters of an ASCII text. -/
def isOneOf (s : String) (b : UInt8) : Bool := s.toList.any (·.toUInt8 = b)

namespace Target

/-! ### Path and query -/

/-- The octets that may stand in a path. -/
def isPathOctet (b : UInt8) : Bool :=
  b == 0x21 || (0x24 ≤ b && b ≤ 0x3B) || b == 0x3D || (0x40 ≤ b && b ≤ 0x5F) ||
    (0x61 ≤ b && b ≤ 0x7A) || b == 0x7C || 0x7E ≤ b || isOneOf "\"\x7b\x7d" b

/-- The octets that may stand in a query. -/
def isQueryOctet (b : UInt8) : Bool :=
  b == 0x21 || (0x24 ≤ b && b ≤ 0x3B) || b == 0x3D || 0x3F ≤ b

/-- What stands in front of the fragment. -/
def dropFragment (bs : Octets) : Octets := bs.takeWhile (· ≠ '#'.toUInt8)

/-- The path and the query of a target that begins with them. -/
def pathAndQuery (scheme authority bs : Octets) : Except TargetError Target :=
  let kept := dropFragment bs
  let path := kept.takeWhile (· ≠ '?'.toUInt8)
  let query := match kept.dropWhile (· ≠ '?'.toUInt8) with
    | [] => none
    | _ :: q => some q
  if path.all isPathOctet && query.all (·.all isQueryOctet) then
    .ok ⟨scheme, authority, if path = [] then ['/'.toUInt8] else path, query⟩
  else .error .invalidCharacter

/-! ### Authority -/

/-- Whether an octet ends an authority. -/
def endsAuthority (b : UInt8) : Bool := isOneOf "/?#" b

/-- What has been seen of an authority.  Colons and percent signs are counted only since the
last `@` or closing bracket. -/
structure Seen where
  /-- The number of colons. -/
  colons : Nat
  /-- Whether a bracket has been opened. -/
  isOpen : Bool
  /-- Whether a bracket has been closed. -/
  isClosed : Bool
  /-- Whether there is a percent sign. -/
  percent : Bool

/-- Goes over one octet of an authority. -/
def Seen.step (s : Seen) (b : UInt8) : Except TargetError Seen :=
  if b = ':'.toUInt8 then
    if 8 ≤ s.colons then .error .invalidAuthority else .ok { s with colons := s.colons + 1 }
  else if b = '['.toUInt8 then
    if s.percent || s.isOpen then .error .invalidAuthority else .ok { s with isOpen := true }
  else if b = ']'.toUInt8 then
    if !s.isOpen || s.isClosed then .error .invalidAuthority
    else .ok { s with isClosed := true, colons := 0, percent := false }
  else if b = '@'.toUInt8 then .ok { s with colons := 0, percent := false }
  else if b = '%'.toUInt8 then .ok { s with percent := true }
  else if isAlphanumeric b || isOneOf "!$&'()*+,-.;=_~" b then .ok s
  else .error .invalidCharacter

/-- Checks an authority: brackets pair, at most one colon leads to a port, a name follows
user information, and percent signs stand only in user information or in brackets. -/
def checkAuthority (bs : Octets) : Except TargetError Unit :=
  match bs.foldlM Seen.step ⟨0, false, false, false⟩ with
  | .error e => .error e
  | .ok s =>
    let isBare := bs.getLast? = some '@'.toUInt8
    if s.isOpen ≠ s.isClosed ∨ 1 < s.colons ∨ isBare ∨ s.percent then
      .error .invalidAuthority
    else .ok ()

/-! ### Scheme -/

/-- The length of the scheme that a text begins with, if it begins with a scheme and `://`. -/
def schemeLength? (bs : Octets) : Except TargetError (Option Nat) :=
  let lower := bs.map fun b => if 'A'.toUInt8 ≤ b ∧ b ≤ 'Z'.toUInt8 then b + 32 else b
  if (Octets.ofString "http://").isPrefixOf lower then .ok (some 4)
  else if (Octets.ofString "https://").isPrefixOf lower then .ok (some 5)
  else
    let name := bs.takeWhile fun b => isAlphanumeric b || isOneOf "+-.~" b
    if 3 < bs.length ∧ (Octets.ofString "://").isPrefixOf (bs.drop name.length) then
      if 64 < name.length then .error .schemeTooLong else .ok (some name.length)
    else .ok none

/-- Reads a target that begins with a scheme or an authority. -/
def parseFull (bs : Octets) : Except TargetError Target :=
  match schemeLength? bs with
  | .error e => .error e
  | .ok scheme =>
    let rest := match scheme with
      | some n => bs.drop (n + 3)
      | none => bs
    if rest = [] then .error .empty
    else
      let authority := rest.takeWhile (!endsAuthority ·)
      match checkAuthority authority with
      | .error e => .error e
      | .ok () =>
        match scheme with
        | none =>
          if authority = rest then .ok ⟨[], authority, [], none⟩ else .error .invalidFormat
        | some n =>
          if authority = [] then .error .invalidFormat
          else pathAndQuery (bs.take n) authority (rest.drop authority.length)

/-- Reads a target. -/
def parse (bs : Octets) : Except TargetError Target :=
  if 65534 < bs.length then .error .tooLong
  else match bs with
    | [] => .error .empty
    | [b] =>
      if b = '/'.toUInt8 ∨ b = '*'.toUInt8 then .ok ⟨[], [], [b], none⟩
      else if endsAuthority b then .error .invalidCharacter
      else (checkAuthority [b]).map fun _ => ⟨[], [b], [], none⟩
    | b :: c :: rest =>
      if b = '/'.toUInt8 then pathAndQuery [] [] (b :: c :: rest)
      else parseFull (b :: c :: rest)

end Target

end ResultPages
