/-
The short form of a commit identifier.
-/
import ResultPages.Text.Blank
import ResultPages.Text.Utf8

namespace ResultPages

/-- The characters at the head of a text that fill a given number of octets exactly, if
there are such. -/
def takeOctets? : List Char → Nat → Option (List Char)
  | _, 0 => some []
  | [], _ + 1 => none
  | c :: cs, n + 1 =>
    if c.utf8Size ≤ n + 1 then (takeOctets? cs (n + 1 - c.utf8Size)).map (c :: ·) else none

/-- A commit identifier without blanks at its ends, cut to seven octets; it is left whole
when it is shorter or when a character lies across the cut. -/
def shortCommit (hash : String) : String :=
  let whole := trim hash.toList
  String.ofList ((takeOctets? whole 7).getD whole)

end ResultPages
