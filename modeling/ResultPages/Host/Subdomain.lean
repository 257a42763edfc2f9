/-
The labels of a host name, and the name without its subdomain.

A host is taken label by label, cut at the dots.  When there are more than two labels the
first one is a subdomain, and `dropSubdomain` leaves the others as they are; a host of one
or two labels is left whole.  Only the text counts here: what the host means, a name or an
address, is found out later.
-/
import ResultPages.Text.Pieces

namespace ResultPages

/-- The labels of a host, empty ones included. -/
def labels (host : List Char) : List (List Char) := pieces '.' host

/-- The host without its first label, if more than two labels stand in it. -/
def dropSubdomain (host : List Char) : List Char :=
  if 2 < (labels host).length then ((cut '.' host).2).getD host else host

end ResultPages
