/-
Where a text stands in another one.
-/

namespace ResultPages

/-- At how many places of a text another one stands. -/
def occurrences (needle : List Char) : List Char → Nat
  | [] => if needle = [] then 1 else 0
  | c :: cs =>
    (if needle.isPrefixOf (c :: cs) then 1 else 0) + occurrences needle cs

/-- Whether a text stands somewhere in another one. -/
def occursIn (needle cs : List Char) : Bool := 0 < occurrences needle cs

end ResultPages
