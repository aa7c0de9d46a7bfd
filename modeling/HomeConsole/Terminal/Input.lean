import HomeConsole.Key
import HomeConsole.Text.Utf8

/-!
# Keys from bytes

A terminal sends a key as one byte, as the bytes of a character, or as a sequence that begins with
the byte of the escape key. Bytes are collected until they make a key; what makes none is dropped.
-/

namespace HomeConsole.Input

/-- What collected bytes amount to. -/
inductive Reading where
  | incomplete
  /-- A key, or a sequence that the console does not listen to. -/
  | complete (key : Option Key)
deriving DecidableEq

namespace Reading

/-- A sequence that the console does not listen to. -/
def ignored : Reading := complete none

/-- A key. -/
def key (k : Key) : Reading := complete (some k)

end Reading

/-- The byte of the escape key. -/
def escape : UInt8 := 0x1B

/-- The number that digits stand for. -/
def number? (digits : List UInt8) : Option Nat :=
  if digits.isEmpty then none
  else digits.foldl (fun n b => n.bind fun n =>
    if 0x30 ≤ b ∧ b ≤ 0x39 then some (10 * n + (b.toNat - 0x30)) else none) (some 0)

/-- A number of eight bits. -/
def byte? (digits : List UInt8) : Option Nat := (number? digits).filter (· < 256)

/-- The parts of a list between separators. -/
def parts (separator : UInt8) (bytes : List UInt8) : List (List UInt8) :=
  bytes.foldr (fun b pieces =>
    match pieces with
    | piece :: more => if b = separator then [] :: piece :: more else (b :: piece) :: more
    | [] => []) [[]]

/-- How a key was moved. -/
inductive Motion where
  | press
  | other
deriving DecidableEq

/-- The motion that a part of a sequence tells of, behind the modifiers, if it has any of these. -/
def motion? (part : List UInt8) : Option Motion :=
  match parts 0x3A part with
  | modifiers :: more =>
    (byte? modifiers).map fun _ =>
      match more.head?.bind byte? with
      | some 2 | some 3 => .other
      | _ => .press
  | [] => none

/-- A sequence that ends in a tilde, by the numbers in it. -/
def tilde (body : List UInt8) : Reading :=
  let pieces := parts 0x3B body
  if (pieces[1]?.bind motion?) = some .other then .ignored
  else
    match pieces.head?.bind byte? with
    | some 5 => .key .pageUp
    | some 6 => .key .pageDown
    | _ => .ignored

/-- A sequence with numbers that ends in a letter. -/
def letter (body : List UInt8) (last : UInt8) : Reading :=
  let usable := match (parts 0x3B body)[1]?.bind motion? with
    | some motion => motion == .press
    | none => body.getLast?.any fun b => 0x30 ≤ b && b ≤ 0x39
  if !usable then .ignored
  else if last = 0x41 then .key .up
  else if last = 0x42 then .key .down
  else .ignored

/-- A sequence behind the escape byte and a bracket. -/
def sequence : List UInt8 → Reading
  | [] => .incomplete
  | first :: rest =>
    if first = 0x41 then .key .up
    else if first = 0x42 then .key .down
    else if first = 0x5B then if rest.isEmpty then .incomplete else .ignored
    else if first = 0x4D then if rest.length < 3 then .incomplete else .ignored
    else if first = 0x3C then
      if rest.getLast? = some 0x4D ∨ rest.getLast? = some 0x6D then .ignored else .incomplete
    else if first = 0x3F then
      if rest.getLast? = some 0x75 ∨ rest.getLast? = some 0x63 then .ignored else .incomplete
    else if 0x30 ≤ first ∧ first ≤ 0x39 then
      match rest.getLast? with
      | none => .incomplete
      | some last =>
        if last < 0x40 ∨ 0x7E < last then .incomplete
        else if last = 0x7E then tilde (first :: rest.dropLast)
        else letter (first :: rest.dropLast) last
    else .ignored

/-- The bytes that follow the first one of a character. -/
def following? (b : UInt8) : Option Nat :=
  if b < 0x80 then some 0
  else if b < 0xC0 then none
  else if b < 0xE0 then some 1
  else if b < 0xF0 then some 2
  else if b < 0xF8 then some 3
  else none

/-- A character by its bytes. -/
def character (bytes : List UInt8) : Reading :=
  match Utf8.decode? bytes, bytes with
  | some (c :: _), _ => .key (.char c)
  | _, b :: rest =>
    match following? b with
    | some n =>
      if rest.all (fun b => 0x80 ≤ b && b < 0xC0) && rest.length < n then .incomplete else .ignored
    | none => .ignored
  | _, [] => .ignored

/-- A key without an escape byte before it, or with one. A control byte counts as its letter, but
for the one that interrupts. -/
def plain (afterEscape : Bool) (bytes : List UInt8) : Reading :=
  match bytes with
  | [0x0D] => .key .enter
  | [0x09] => .ignored
  | [0x7F] => .key .backspace
  | [0x00] => .key (.char ' ')
  | [b] =>
    if b = 0x03 ∧ !afterEscape then .key .interrupt
    else if 0x01 ≤ b ∧ b ≤ 0x1A then .key (.char (Char.ofNat (b.toNat + 0x60)))
    else if 0x1C ≤ b ∧ b ≤ 0x1F then .key (.char (Char.ofNat (b.toNat + 0x18)))
    else character [b]
  | bytes => character bytes

/-- What collected bytes amount to. The escape byte alone is the escape key, unless more bytes have
arrived with it. -/
def read (more : Bool) (bytes : List UInt8) : Reading :=
  match bytes with
  | [] => .incomplete
  | [0x1B] => if more then .incomplete else .key .escape
  | 0x1B :: 0x1B :: _ => .key .escape
  | [0x1B, 0x4F] => .incomplete
  | 0x1B :: 0x4F :: b :: _ =>
    if b = 0x41 then .key .up else if b = 0x42 then .key .down else .ignored
  | 0x1B :: 0x5B :: rest => sequence rest
  | 0x1B :: rest => plain true rest
  | bytes => plain false bytes

/-- The keys in bytes that arrived together, after others that made no key yet; and the bytes that
are left over. -/
def keys (pending : List UInt8) : List UInt8 → List Key × List UInt8
  | [] => ([], pending)
  | b :: rest =>
    let collected := pending ++ [b]
    match read (!rest.isEmpty) collected with
    | .incomplete => keys collected rest
    | .complete key =>
      let (more, left) := keys [] rest
      (key.toList ++ more, left)

end HomeConsole.Input
