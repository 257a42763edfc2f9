/-
The query of a request, and the `status` it asks for.

A query is cut at `&`; empty pieces are skipped.  A piece is cut at its first `=` into a
key and a value, and the value is empty when there is no `=`.  In both parts `+` is a space
and percent escapes are decoded.  The first piece whose key is `status` decides.

Octets that are not UTF-8 reach the reader as U+FFFD, in keys and in values.

A query is written piece by piece as well.  The characters that cannot be mistaken stand for
themselves, a space is written as `+`, and every other character by the escapes of its octets.
-/
import ResultPages.Text.Pieces
import ResultPages.Text.Percent

namespace ResultPages

namespace Query

/-! ### Reading -/

/-- The octets that a part of a piece stands for. -/
def decodePart (bs : Octets) : Octets :=
  Percent.decode (bs.map fun b => if b = '+'.toUInt8 then ' '.toUInt8 else b)

/-- The text of a part of a piece. -/
def readPart (bs : Octets) : String := (decodePart bs).toStringLossy

/-- The key and the value of a piece, not yet decoded. -/
def keyValue (piece : Octets) : Octets × Octets :=
  let parts := cut '='.toUInt8 piece
  (parts.1, parts.2.getD [])

/-- The pairs of a query in order. -/
def pairs (query : Octets) : List (String × String) :=
  ((pieces '&'.toUInt8 query).filter (· ≠ [])).map fun piece =>
    (readPart (keyValue piece).1, readPart (keyValue piece).2)

/-- The first value of a key. -/
def first? (key : String) (query : Octets) : Option String :=
  ((pairs query).find? (·.1 = key)).map (·.2)

/-- The key of the status. -/
def statusKey : String := "status"

/-- The status that a query asks for. -/
def status? (query : Octets) : Option String := first? statusKey query

/-! ### Writing -/

/-- The characters that stand for themselves in a written part. -/
def isLiteral (c : Char) : Bool :=
  ('0' ≤ c && c ≤ '9') || ('A' ≤ c && c ≤ 'Z') || ('a' ≤ c && c ≤ 'z') ||
    ['*', '-', '.', '_'].contains c

/-- How a character is written in a part. -/
def writeChar (c : Char) : List Char :=
  if c = ' ' then ['+']
  else if isLiteral c then [c]
  else (String.utf8EncodeChar c).flatMap Percent.escape

/-- How a text is written as a part of a piece. -/
def writePart (cs : List Char) : List Char := cs.flatMap writeChar

/-- The query of one piece, with a given key and value. -/
def write (key value : String) : String :=
  String.ofList (writePart key.toList ++ '=' :: writePart value.toList)

end Query

end ResultPages
