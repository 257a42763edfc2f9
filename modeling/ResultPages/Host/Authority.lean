/-
A host with an optional port, as it stands in a web address behind `https://`.

Spaces and control characters at the end are dropped, and so are tabs and line ends
anywhere.  The host reaches up to the first colon outside brackets.  The port behind it is
decimal; 443 is the port of the scheme and counts as none, and so does an empty one.
-/
import ResultPages.Host
import ResultPages.Text.Blank

namespace ResultPages

/-- A host and a port. -/
structure Authority where
  /-- The host. -/
  host : Host
  /-- The port, unless it is the one of the scheme. -/
  port : Option Nat
deriving DecidableEq, Repr

namespace Authority

/-- The text without what a web address does not count: tabs and line ends, and space and
controls at its end. -/
def clean (cs : List Char) : List Char :=
  (trimEnd (·.toNat ≤ 0x20) cs).filter fun c => c ≠ '\t' ∧ c ≠ '\n' ∧ c ≠ '\r'

/-- Cuts at the first colon that stands outside brackets. -/
def cutPort (inside : Bool) : List Char → List Char × Option (List Char)
  | [] => ([], none)
  | c :: cs =>
    if c = ':' ∧ !inside then ([], some cs)
    else
      let rest := cutPort (c = '[' || (inside && c ≠ ']')) cs
      (c :: rest.1, rest.2)

/-- The number that a port spells; the empty port is no number. -/
def port? (cs : List Char) : Except HostError (Option Nat) :=
  if cs = [] then .ok none
  else if cs.all Char.isDigit then
    let n := cs.foldl (fun n c => n * 10 + (c.toNat - 48)) 0
    if 65535 < n then .error .invalidPort else .ok (if n = 443 then none else some n)
  else .error .invalidPort

/-- Reads a host with an optional port. -/
def parse (cs : List Char) : Except HostError Authority :=
  let parts := cutPort false (clean cs)
  match Host.parse parts.1 with
  | .error e => .error e
  | .ok host =>
    match port? (parts.2.getD []) with
    | .error e => .error e
    | .ok port => .ok ⟨host, port⟩

/-- The canonical text. -/
def toText (a : Authority) : List Char :=
  a.host.toText ++
    match a.port with
    | none => []
    | some n => ':' :: Nat.toDigits 10 n

end Authority

end ResultPages
