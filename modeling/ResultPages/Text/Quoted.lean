/-
Texts quoted for a log line.

A quoted text stands between double quotes.  Line ends, tabs, NUL, quotes and backslashes
have escapes of two characters; every other character that cannot be shown is written as
its code point, in lower-case hexadecimal between braces.  The rest stands for itself.
-/
import ResultPages.CodePoint.Printable

namespace ResultPages

namespace Quoted

/-- The escape of a character by its code point. -/
def codePoint (c : Char) : List Char :=
  ['\\', 'u', '\x7b'] ++ Nat.toDigits 16 c.toNat ++ ['\x7d']

/-- How a character is written inside quotes. -/
def escape (c : Char) : List Char :=
  if c = '\x00' then ['\\', '0']
  else if c = '\t' then ['\\', 't']
  else if c = '\r' then ['\\', 'r']
  else if c = '\n' then ['\\', 'n']
  else if c = '"' then ['\\', '"']
  else if c = '\\' then ['\\', '\\']
  else if CodePoint.isPrintable c then [c]
  else codePoint c

/-- A text between quotes. -/
def text (cs : List Char) : List Char := '"' :: (cs.flatMap escape ++ ['"'])

/-- A value that is there, written as such. -/
def present (cs : List Char) : List Char := "Some(".toList ++ text cs ++ [')']

end Quoted

end ResultPages
