import HomeConsole.Text.Columns

/-!
# Fitting text

Texts cut down to some columns, and texts filled up with blanks to some characters.
-/

namespace HomeConsole

/-- The longest beginning of a text whose characters, each on its own, take no more than some
columns. -/
def takeColumns (free : Nat) : List Char → List Char
  | [] => []
  | c :: cs =>
    let taken := (Columns.ofChar? c).getD 0
    if free < taken then [] else c :: takeColumns (free - taken) cs

/-- A text that is too long for some columns is cut, with three dots for what is missing, or with
nothing but dots where there is no room for more. -/
def truncate (text : String) (width : Nat) : String :=
  if columns text ≤ width then text
  else if width ≤ 3 then String.ofList (List.replicate width '.')
  else String.ofList (takeColumns (width - 3) text.toList ++ ['.', '.', '.'])

/-- A text with blanks behind it, up to some characters. -/
def padEnd (text : String) (length : Nat) : String :=
  text ++ String.ofList (List.replicate (length - text.length) ' ')

/-- A text with blanks before it, up to some characters. -/
def padStart (text : String) (length : Nat) : String :=
  String.ofList (List.replicate (length - text.length) ' ') ++ text

end HomeConsole
