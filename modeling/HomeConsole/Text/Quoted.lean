import HomeConsole.Text.Unprintable

/-!
# Quoted text

A text as a message shows it: between double quotes, with every character escaped that would not be
seen as itself. The common controls have short escapes; the rest are written by their code point.
-/

namespace HomeConsole.Quoted

/-- The digits of a number in lower-case hexadecimal. -/
def hex (n : Nat) : List Char := Nat.toDigits 16 n

/-- One character inside the quotes. -/
def escape (c : Char) : List Char :=
  if c = '"' ∨ c = '\\' then ['\\', c]
  else if c = '\t' then ['\\', 't']
  else if c = '\r' then ['\\', 'r']
  else if c = '\n' then ['\\', 'n']
  else if c = '\x00' then ['\\', '0']
  else if unprintable.has c then ['\\', 'u', '\x7b'] ++ hex c.toNat ++ ['\x7d']
  else [c]

/-- A text between quotes. -/
def encode (s : String) : String :=
  String.ofList ('"' :: s.toList.flatMap escape ++ ['"'])

end HomeConsole.Quoted
