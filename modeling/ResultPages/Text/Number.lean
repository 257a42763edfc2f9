/-
Decimal numbers that must fit into a type of numbers.

A number is read digit by digit.  The first digit that does not fit, or that is none, decides
what is reported, so a number that is too large never wraps around.
-/

namespace ResultPages

/-- What is wrong with a number. -/
inductive NumberError where
  | empty
  | invalidDigit
  | tooLarge
  | tooSmall
deriving DecidableEq, Repr

/-- The wording of an error. -/
def NumberError.message : NumberError → String
  | empty => "cannot parse integer from empty string"
  | invalidDigit => "invalid digit found in string"
  | tooLarge => "number too large to fit in target type"
  | tooSmall => "number too small to fit in target type"

namespace Number

/-- Adds a digit to a number that must stay at most `bound`. -/
def addDigit (bound : Nat) (overflow : NumberError) (n : Nat) (c : Char) :
    Except NumberError Nat :=
  if !c.isDigit then .error .invalidDigit
  else
    let m := n * 10 + (c.toNat - 48)
    if bound < m then .error overflow else .ok m

/-- The number that some digits spell. -/
def digits (bound : Nat) (overflow : NumberError) (cs : List Char) : Except NumberError Nat :=
  if cs = [] then .error .invalidDigit else cs.foldlM (addDigit bound overflow) 0

/-- A number without a minus sign, of at most `bound`. -/
def natural (bound : Nat) : List Char → Except NumberError Nat
  | [] => .error .empty
  | c :: cs => digits bound .tooLarge (if c = '+' then cs else c :: cs)

/-- A signed number of 64 bits. -/
def int64 : List Char → Except NumberError Int
  | [] => .error .empty
  | c :: cs =>
    if c = '-' then (digits 0x8000000000000000 .tooSmall cs).map fun n => -Int.ofNat n
    else (natural 0x7FFFFFFFFFFFFFFF (c :: cs)).map Int.ofNat

end Number

end ResultPages
