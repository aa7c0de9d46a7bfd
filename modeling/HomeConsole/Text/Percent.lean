import HomeConsole.Text.Utf8

/-!
# Percent escapes

A byte of a text that may not stand for itself is written as `%` and two hexadecimal digits.
`escape` takes the bytes that stay; `encode` keeps only the unreserved ones, so that any text fits
into one path segment. `decode` undoes escapes, leaves a `%` that begins none alone, and gives the
text back unread when the bytes behind the escapes are no UTF-8.
-/

namespace HomeConsole.Percent

/-- The upper-case hexadecimal digit for a number below sixteen. -/
def hexDigit (n : Nat) : Char :=
  Char.ofNat (if n < 10 then '0'.toNat + n else 'A'.toNat + (n - 10))

/-- The value of a hexadecimal digit in either case. -/
def hexValue? (b : UInt8) : Option Nat :=
  let n := b.toNat
  if 0x30 ≤ n ∧ n ≤ 0x39 then some (n - 0x30)
  else if 0x41 ≤ n ∧ n ≤ 0x46 then some (n - 0x41 + 10)
  else if 0x61 ≤ n ∧ n ≤ 0x66 then some (n - 0x61 + 10)
  else none

/-- Letters, digits and `-`, `_`, `.`, `~`: the bytes that never need an escape. -/
def isUnreserved (b : UInt8) : Bool :=
  let c := Char.ofNat b.toNat
  c.isAlphanum || c == '-' || c == '_' || c == '.' || c == '~'

/-- The escape of one byte. -/
def escapeByte (b : UInt8) : List Char :=
  ['%', hexDigit (b.toNat / 16), hexDigit (b.toNat % 16)]

/-- One byte, as itself when it is kept. -/
def writeByte (keep : UInt8 → Bool) (b : UInt8) : List Char :=
  if keep b then [Char.ofNat b.toNat] else escapeByte b

/-- A text with every byte escaped that `keep` does not keep. -/
def escape (keep : UInt8 → Bool) (cs : List Char) : List Char :=
  (Utf8.encode cs).flatMap (writeByte keep)

/-- A text as one path segment. -/
def encode (s : String) : String := String.ofList (escape isUnreserved s.toList)

/-- The byte that three bytes of text escape, if they are an escape. -/
def escaped? (mark high low : UInt8) : Option UInt8 :=
  if mark = 0x25 then
    match hexValue? high, hexValue? low with
    | some h, some l => some (UInt8.ofNat (h * 16 + l))
    | _, _ => none
  else none

/-- The bytes behind the escapes. -/
def decodeBytes : List UInt8 → List UInt8
  | b :: h :: l :: rest =>
    match escaped? b h l with
    | some v => v :: decodeBytes rest
    | none => b :: decodeBytes (h :: l :: rest)
  | short => short

/-- The text behind the escapes, when its bytes are UTF-8. -/
def decode? (s : String) : Option String :=
  (Utf8.decode? (decodeBytes (Utf8.encode s.toList))).map String.ofList

/-- The text behind the escapes, or the text as it stands. -/
def decode (s : String) : String := (decode? s).getD s

end HomeConsole.Percent
