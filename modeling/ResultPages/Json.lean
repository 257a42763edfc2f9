/-
JSON values, and how a text is written as a JSON string.

A number is an integer, or a decimal if it has a fraction or an exponent.  An object has a value
under each of its names, and no name twice.
-/
import ResultPages.Text.Blank
import ResultPages.Text.Quoted

namespace ResultPages

/-- A JSON value. -/
inductive Json where
  | null
  | bool (b : Bool)
  | number (n : Int)
  /-- The mantissa times ten to the power of the exponent. -/
  | decimal (mantissa exponent : Int)
  | string (s : String)
  | array (items : List Json)
  | object (names : List String) (distinct : names.Nodup)
      (value : (name : String) → name ∈ names → Json)
deriving Inhabited

namespace Json

/-! ### Objects -/

/-- The value that stands beside a name. -/
def valueIn : (fields : List (String × Json)) → (name : String) → name ∈ fields.map (·.1) → Json
  | [], _, h => absurd h List.not_mem_nil
  | f :: fields, name, h =>
    if hf : name = f.1 then f.2 else valueIn fields name ((List.mem_cons.1 h).resolve_left hf)

/-- The object with some fields. -/
def ofFields (fields : List (String × Json)) (distinct : (fields.map (·.1)).Nodup) : Json :=
  .object (fields.map (·.1)) distinct (valueIn fields)

/-- The value of an object under a name, if it has one there. -/
def field? (v : Json) (name : String) : Option Json :=
  match v with
  | object names _ value => if h : name ∈ names then some (value name h) else none
  | _ => none

/-! ### In words -/

/-- A decimal with all its digits in front of the point, and behind it with one place or as many
as are needed. -/
def decimalText (mantissa exponent : Int) : List Char :=
  let places := (-exponent).toNat
  let digits := Nat.toDigits 10 (mantissa.natAbs * Nat.pow 10 exponent.toNat)
  let padded := List.replicate (places + 1 - digits.length) '0' ++ digits
  let whole := padded.take (padded.length - places)
  let fraction := trimEnd (· = '0') (padded.drop (padded.length - places))
  (if mantissa < 0 then ['-'] else []) ++ whole ++
    '.' :: (if fraction = [] then ['0'] else fraction)

example : decimalText (-1500) (-3) = "-1.5".toList ∧ decimalText 5 (-3) = "0.005".toList ∧
    decimalText 1 2 = "100.0".toList := by decide

/-- What a value is, in the words of an error text. -/
def describe : Json → String
  | null => "null"
  | bool b => "boolean \x60" ++ (if b then "true" else "false") ++ "\x60"
  | number n => "integer \x60" ++ n.repr ++ "\x60"
  | decimal m e => "floating point \x60" ++ String.ofList (decimalText m e) ++ "\x60"
  | string s => "string " ++ String.ofList (Quoted.text s.toList)
  | array _ => "sequence"
  | object .. => "map"

/-! ### As text -/

/-- A control character by its code point, in four hexadecimal digits. -/
def escapeControl (c : Char) : List Char :=
  "\\u00".toList ++ [Nat.digitChar (c.toNat / 16), Nat.digitChar (c.toNat % 16)]

/-- How a character is written inside a JSON string.  Quotes, backslashes and the control
characters below the space are escaped, five of them by a letter. -/
def escapeChar (c : Char) : List Char :=
  if c = '"' then ['\\', '"']
  else if c = '\\' then ['\\', '\\']
  else if c = '\x08' then ['\\', 'b']
  else if c = '\x0c' then ['\\', 'f']
  else if c = '\n' then ['\\', 'n']
  else if c = '\r' then ['\\', 'r']
  else if c = '\t' then ['\\', 't']
  else if c.toNat < 0x20 then escapeControl c
  else [c]

/-- A text as a JSON string. -/
def quote (s : String) : String :=
  String.ofList ('"' :: (s.toList.flatMap escapeChar ++ ['"']))

end Json

end ResultPages
