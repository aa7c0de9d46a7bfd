import HomeConsole.Text.Blank
import HomeConsole.Url.Basic

/-!
# Hosts

A host is a name, an address of four numbers, or an address of eight pieces between brackets. A name
that ends in a number has to be an address.
-/

namespace HomeConsole

/-- Why a text is no URL. -/
inductive UrlFault where
  | emptyHost
  | badDomain
  | badPort
  | badV4
  | badV6
  | badCharacter
  | relative
deriving Repr, DecidableEq

/-- The wording of a fault. -/
def UrlFault.message : UrlFault → String
  | emptyHost => "empty host"
  | badDomain => "invalid international domain name"
  | badPort => "invalid port number"
  | badV4 => "invalid IPv4 address"
  | badV6 => "invalid IPv6 address"
  | badCharacter => "invalid domain character"
  | relative => "relative URL without a base"

namespace Host

/-! ## Addresses of four numbers -/

/-- The value of a hexadecimal digit. -/
def digitValue (c : Char) : Nat := (Percent.hexValue? (UInt8.ofNat c.toNat)).getD 0

/-- The value of digits in a base. -/
def digitsValue (base : Nat) (digits : List Char) : Nat :=
  digits.foldl (fun n c => n * base + digitValue c) 0

/-- Whether a character is a digit in a base. -/
def isDigitOf (base : Nat) (c : Char) : Bool :=
  if base = 16 then c.isDigit || ('a' ≤ c && c ≤ 'f') || ('A' ≤ c && c ≤ 'F')
  else if base = 8 then '0' ≤ c && c ≤ '7'
  else c.isDigit

/-- A number of an address: decimal, octal behind a zero, hexadecimal behind `0x`. -/
def number? : List Char → Option Nat
  | [] => none
  | '0' :: 'x' :: digits => if digits.all (isDigitOf 16) then some (digitsValue 16 digits) else none
  | '0' :: 'X' :: digits => if digits.all (isDigitOf 16) then some (digitsValue 16 digits) else none
  | ['0'] => some 0
  | '0' :: digits => if digits.all (isDigitOf 8) then some (digitsValue 8 digits) else none
  | digits => if digits.all (isDigitOf 10) then some (digitsValue 10 digits) else none

/-- The pieces of a name between its points, without an empty one at the end. -/
def nameParts (name : List Char) : List (List Char) :=
  let parts := splitWhere (· == '.') name
  if parts.length > 1 ∧ parts.getLast? = some [] then parts.dropLast else parts

/-- Whether the last part of a name is a number. -/
def endsInNumber (name : List Char) : Bool :=
  match (nameParts name).getLast? with
  | none => false
  | some [] => false
  | some last => last.all Char.isDigit || (number? last).isSome

/-- An address of one to four numbers; the last one fills the bytes that are left. -/
def v4? (name : List Char) : Option Nat :=
  let parts := nameParts name
  if parts.length > 4 then none
  else
    match parts.mapM number? with
    | none => none
    | some numbers =>
      let front := numbers.dropLast
      let last := numbers.getLast?.getD 0
      if front.any (255 < ·) ∨ Nat.pow 256 (4 - front.length) ≤ last then none
      else
        some (front.zipIdx.foldl (fun sum (n, i) => sum + n * Nat.pow 256 (3 - i)) last)

/-! ## Addresses of eight pieces -/

/-- Four decimal numbers without leading zeros, with points between them. -/
def quad? (text : List Char) : Option (List Nat) :=
  let parts := splitWhere (· == '.') text
  let part? (digits : List Char) : Option Nat :=
    if digits.isEmpty || ! digits.all Char.isDigit || digits.length > 3 then none
    else if digits.length > 1 && digits.head? == some '0' then none
    else if 255 < digitsValue 10 digits then none
    else some (digitsValue 10 digits)
  if parts.length ≠ 4 then none else parts.mapM part?

/-- Pieces with colons between them; the last two may be written as four numbers. -/
def pieces? (text : List Char) : Option (List Nat) :=
  if text.isEmpty then some []
  else
    let parts := splitWhere (· == ':') text
    let piece? (digits : List Char) : Option (List Nat) :=
      if digits.isEmpty || 4 < digits.length || ! digits.all (isDigitOf 16) then none
      else some [digitsValue 16 digits]
    let last? (digits : List Char) : Option (List Nat) :=
      if digits.contains '.' then
        (quad? digits).map fun
          | [a, b, c, d] => [a * 256 + b, c * 256 + d]
          | _ => []
      else piece? digits
    match parts.dropLast.mapM piece?, parts.getLast?.bind last? with
    | some front, some last => some (front.flatten ++ last)
    | _, _ => none

/-- The text around the first double colon, if there is one. -/
def aroundGap : List Char → Option (List Char × List Char)
  | ':' :: ':' :: rest => some ([], rest)
  | c :: rest => (aroundGap rest).map fun (front, back) => (c :: front, back)
  | [] => none

/-- An address of eight pieces, some of which may be left out once. -/
def v6? (text : List Char) : Option (List Nat) :=
  match aroundGap text with
  | none =>
    match pieces? text with
    | some pieces => if pieces.length = 8 then some pieces else none
    | none => none
  | some (front, back) =>
    if front.contains '.' then none
    else
      match pieces? front, pieces? back with
      | some front, some back =>
        if front.length + back.length ≤ 7 then
          some (front ++ List.replicate (8 - front.length - back.length) 0 ++ back)
        else none
      | _, _ => none

/-! ## Hosts -/

/-- An address between brackets. -/
def bracketed (text : List Char) : Except UrlFault Host :=
  if text.getLast? ≠ some ']' then .error .badV6
  else
    match v6? text.dropLast with
    | some pieces => .ok (.v6 pieces)
    | none => .error .badV6

/-- The host of a scheme that leaves names as they are. -/
def parsePlain (text : List Char) : Except UrlFault Host :=
  match text with
  | '[' :: rest => bracketed rest
  | _ =>
    let bad := ['\x00', '\t', '\n', '\r', ' ', '#', '/', ':', '<', '>', '?', '@', '[', '\\', ']',
      '^', '|']
    if text.any bad.contains then .error .badCharacter
    else .ok (.name (String.ofList (Percent.escape (! Url.isControl ·) text)))

end Host

end HomeConsole
