/-
Requests and answers as they are sent over a connection.

A request begins with a line that holds method, target and protocol version between single
spaces; lines with a name and a value around a colon follow, up to an empty line.  An answer
has the same form, with a status in its first line.
-/
import ResultPages.Http.Message
import ResultPages.Text.Blank
import ResultPages.Text.Pieces

namespace ResultPages

namespace Wire

/-- Whether a character surrounds the value of a header without belonging to it. -/
def isPadding (c : UInt8) : Bool := c == 0x20 || c == 0x09

/-- The name and the value in a header line. -/
def header? (line : Octets) : Option (String × Octets) :=
  match cut ':'.toUInt8 line with
  | (name, some value) =>
    some (Octets.toStringLossy name,
      ((value.dropWhile isPadding).reverse.dropWhile isPadding).reverse)
  | (_, none) => none

/-- The request that some lines make, without the empty line behind them and without a body. -/
def request? : List Octets → Option Request
  | [] => none
  | first :: rest =>
    match pieces ' '.toUInt8 first, rest.mapM header? with
    | [method, target, _], some headers =>
      let method := Octets.toStringLossy method
      let target := Octets.toStringLossy target
      (Request.parse method target headers []).toOption
    | _, _ => none

/-- The end of a line. -/
def lineEnd : Octets := [0x0D, 0x0A]

/-- A header as a line. -/
def headerLine (h : Header) : Octets :=
  Octets.ofString h.name ++ Octets.ofString ": " ++ h.value ++ lineEnd

/-- An answer as it is sent. -/
def response (r : Response) : Octets :=
  Octets.ofString ("HTTP/1.1 " ++ Nat.repr r.status ++ " ") ++ lineEnd ++
    r.headers.flatMap headerLine ++ lineEnd ++ Octets.ofString r.body

end Wire

end ResultPages
