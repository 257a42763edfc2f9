/-
Punycode: texts of any characters written with letters, digits and hyphens.

The ASCII characters of a text come first, followed by a hyphen if there are any.  The other
characters are put in one after the other, by rising code point and from left to right.
Each insertion is one number, the count of (code point, place) pairs that are passed over,
written in digits of base 36 with the lowest digit first.  The threshold of a digit says
whether the number ends there; it depends on the size of the numbers before, the *bias*.

Reading goes digit by digit and keeps the state in a `Reader`.  Writing goes over the
distinct code points in order, and for each one over the text.  Numbers that do not fit in
32 bits are refused.
-/

namespace ResultPages

namespace Punycode

/-! ### Digits, thresholds and bias -/

/-- The value of a digit: letters of either case, then the ten digits. -/
def digitValue? (c : Char) : Option Nat :=
  if 'a' ≤ c ∧ c ≤ 'z' then some (c.toNat - 97)
  else if 'A' ≤ c ∧ c ≤ 'Z' then some (c.toNat - 65)
  else if '0' ≤ c ∧ c ≤ '9' then some (c.toNat - 22)
  else none

/-- The digit with a given value. -/
def digit (n : Nat) : Char := if n < 26 then Char.ofNat (97 + n) else Char.ofNat (22 + n)

/-- The threshold of the digit at place `k`, where places count in steps of 36. -/
def threshold (k bias : Nat) : Nat := min 26 (max 1 (k - bias))

theorem threshold_pos (k bias : Nat) : 0 < threshold k bias := by unfold threshold; omega

theorem threshold_le (k bias : Nat) : threshold k bias ≤ 26 := by unfold threshold; omega

/-- Divides by 35 until the number is at most 455, and counts the divisions by 36. -/
def damp (delta : Nat) : Nat × Nat :=
  if 455 < delta then ((damp (delta / 35)).1, (damp (delta / 35)).2 + 36) else (delta, 0)
termination_by delta

/-- The bias after an insertion that passed over `delta` pairs. -/
def adapt (delta points : Nat) (isFirst : Bool) : Nat :=
  let scaled := if isFirst then delta / 700 else delta / 2
  let damped := damp (scaled + scaled / points)
  damped.2 + 36 * damped.1 / (damped.1 + 38)

/-! ### Reading -/

/-- What has been read so far: the text, the place and code point from which the next number
counts, and the digits of a number that has not ended. -/
structure Reader where
  /-- The text so far. -/
  text : List Char
  /-- The place behind the last insertion. -/
  place : Nat
  /-- The code point of the last insertion. -/
  code : Nat
  /-- The bias for the next number. -/
  bias : Nat
  /-- The number so far, counted from `place`. -/
  value : Nat
  /-- What the next digit counts. -/
  weight : Nat
  /-- The place of the next digit in its number. -/
  k : Nat

/-- The reader in front of a number. -/
def Reader.ready (text : List Char) (place code bias : Nat) : Reader :=
  ⟨text, place, code, bias, place, 1, 36⟩

/-- Puts in the character that a finished number stands for. -/
def Reader.insert? (r : Reader) (value : Nat) : Option Reader :=
  let points := r.text.length + 1
  let code := r.code + value / points
  let place := value % points
  if code.isValidChar then
    some (.ready (r.text.take place ++ Char.ofNat code :: r.text.drop place) (place + 1) code
      (adapt (value - r.place) points (r.place == 0)))
  else none

/-- Reads one digit. -/
def Reader.step? (r : Reader) (d : Nat) : Option Reader :=
  let value := r.value + d * r.weight
  let t := threshold r.k r.bias
  if 0x100000000 ≤ value then none
  else if d < t then r.insert? value
  else if 0x100000000 ≤ r.weight * (36 - t) then none
  else some { r with value := value, weight := r.weight * (36 - t), k := r.k + 36 }

/-- Reads all digits; the last number must be finished. -/
def readDigits? (r : Reader) : List Char → Option (List Char)
  | [] => if r.k = 36 then some r.text else none
  | c :: cs => (digitValue? c).bind fun d => (r.step? d).bind fun r => readDigits? r cs

/-- The ASCII characters of a written text, and the digits after them. -/
def parts (cs : List Char) : List Char × List Char :=
  let digits := (cs.reverse.takeWhile (· ≠ '-')).reverse
  let basic := (cs.take (cs.length - digits.length)).dropLast
  if basic = [] then ([], cs) else (basic, digits)

/-- The text that is written as `cs`. -/
def decode? (cs : List Char) : Option (List Char) :=
  readDigits? (.ready (parts cs).1 0 128 72) (parts cs).2

/-! ### Writing -/

/-- The digits of a number from place `k` on. -/
def digits (bias k q : Nat) : List Char :=
  let t := threshold k bias
  if q < t then [digit q]
  else digit (t + (q - t) % (36 - t)) :: digits bias (k + 36) ((q - t) / (36 - t))
termination_by q
decreasing_by
  have := threshold_pos k bias
  exact Nat.lt_of_le_of_lt (Nat.div_le_self _ _) (by omega)

/-- What has been written so far, the number that is being counted, and how many characters
of the text are in. -/
structure Writer where
  /-- The digits so far. -/
  out : List Char
  /-- The pairs passed over since the last insertion. -/
  delta : Nat
  /-- The bias for the next number. -/
  bias : Nat
  /-- The number of characters that are in. -/
  done : Nat

/-- Passes one character of the text while `code` is being put in. -/
def Writer.pass (basic code : Nat) (w : Writer) (c : Char) : Writer :=
  if c.toNat < code then { w with delta := w.delta + 1 }
  else if c.toNat = code then
    ⟨w.out ++ digits w.bias 36 w.delta, 0, adapt w.delta (w.done + 1) (w.done == basic),
      w.done + 1⟩
  else w

/-- Puts in all characters with one code point, where `next` is the first code point that has
not been dealt with. -/
def Writer.round (text : List Char) (basic : Nat) (acc : Writer × Nat) (code : Nat) :
    Writer × Nat :=
  let start := { acc.1 with delta := acc.1.delta + (code - acc.2) * (acc.1.done + 1) }
  let after := text.foldl (Writer.pass basic code) start
  ({ after with delta := after.delta + 1 }, code + 1)

/-- Puts a number into an increasing list, once. -/
def insertOnce (n : Nat) : List Nat → List Nat
  | [] => [n]
  | m :: ms =>
    if n < m then n :: m :: ms else if n = m then m :: ms else m :: insertOnce n ms

/-- The code points outside ASCII in a text, rising and each one once. -/
def foreign (text : List Char) : List Nat :=
  (text.filter (128 ≤ ·.toNat)).foldr (fun c ns => insertOnce c.toNat ns) []

/-- A text in letters, digits and hyphens. -/
def encode (text : List Char) : List Char :=
  let basic := text.filter (·.toNat < 128)
  let head := if basic = [] then [] else basic ++ ['-']
  head ++ ((foreign text).foldl (Writer.round text basic.length)
    (⟨[], 0, 72, basic.length⟩, 128)).1.out

end Punycode

end ResultPages
