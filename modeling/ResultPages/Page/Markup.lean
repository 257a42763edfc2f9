/-
Text inside markup.

The five characters that mean something in markup are written as entities; all others
stand for themselves.  So an escaped text holds neither angle brackets nor quotes, and it
can be read back: `unescape (escape cs) = cs`.
-/

namespace ResultPages

namespace Markup

/-- The entity for a character that needs one. -/
def entity? : Char → Option (List Char)
  | '&' => some "&amp;".toList
  | '<' => some "&lt;".toList
  | '>' => some "&gt;".toList
  | '"' => some "&quot;".toList
  | '\'' => some "&#x27;".toList
  | _ => none

/-- How a character is written in markup. -/
def escapeChar (c : Char) : List Char := (entity? c).getD [c]

/-- How a text is written in markup. -/
def escape (cs : List Char) : List Char := cs.flatMap escapeChar

/-- A text as it stands in markup. -/
def text (s : String) : String := String.ofList (escape s.toList)

/-- Reads escaped text back; an ampersand that begins no entity stands for itself. -/
def unescape : List Char → List Char
  | '&' :: 'a' :: 'm' :: 'p' :: ';' :: cs => '&' :: unescape cs
  | '&' :: 'l' :: 't' :: ';' :: cs => '<' :: unescape cs
  | '&' :: 'g' :: 't' :: ';' :: cs => '>' :: unescape cs
  | '&' :: 'q' :: 'u' :: 'o' :: 't' :: ';' :: cs => '"' :: unescape cs
  | '&' :: '#' :: 'x' :: '2' :: '7' :: ';' :: cs => '\'' :: unescape cs
  | c :: cs => c :: unescape cs
  | [] => []

/-- A character that begins no entity stands for itself. -/
theorem unescape_cons_of_ne {c : Char} (h : c ≠ '&') (cs : List Char) :
    unescape (c :: cs) = c :: unescape cs := by
  rw [unescape] <;> simp_all

theorem unescape_escapeChar (c : Char) (cs : List Char) :
    unescape (escapeChar c ++ cs) = c :: unescape cs := by
  unfold escapeChar entity?
  split
  case h_6 h _ _ _ _ => exact unescape_cons_of_ne (fun hc => h hc) cs
  all_goals simp [unescape]

/-- Escaped text reads back. -/
theorem unescape_escape (cs : List Char) : unescape (escape cs) = cs := by
  induction cs with
  | nil => simp [escape, unescape]
  | cons c cs ih =>
    have h := unescape_escapeChar c (escape cs)
    rw [ih] at h
    simpa [escape] using h

end Markup

end ResultPages
