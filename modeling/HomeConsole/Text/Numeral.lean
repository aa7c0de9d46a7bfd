/-!
# Numerals

Natural numbers of 64 bits written in decimal digits. A plus sign may come first; leading zeros do
not matter.
-/

namespace HomeConsole

/-- Why a text is no number of 64 bits. -/
inductive NumeralFault where
  | empty
  | badDigit
  | tooLarge
deriving Repr, DecidableEq

/-- The wording of a fault. -/
def NumeralFault.message : NumeralFault → String
  | empty => "cannot parse integer from empty string"
  | badDigit => "invalid digit found in string"
  | tooLarge => "number too large to fit in target type"

namespace Numeral

/-- The first number that does not fit. -/
def bound : Nat := Nat.pow 2 64

/-- Reads digits behind those that gave `n`. The first character at which something is wrong
decides what is wrong. -/
def digitsFrom (n : Nat) : List Char → Except NumeralFault Nat
  | [] => .ok n
  | c :: cs =>
    if ! c.isDigit then .error .badDigit
    else if n * 10 + (c.toNat - '0'.toNat) < bound then
      digitsFrom (n * 10 + (c.toNat - '0'.toNat)) cs
    else .error .tooLarge

/-- Reads digits, at least one. -/
def digits : List Char → Except NumeralFault Nat
  | [] => .error .badDigit
  | c :: cs => digitsFrom 0 (c :: cs)

/-- Reads a number. -/
def read : List Char → Except NumeralFault Nat
  | [] => .error .empty
  | '+' :: cs => digits cs
  | cs => digits cs

end Numeral

end HomeConsole
