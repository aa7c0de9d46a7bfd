import HomeConsole.Screen.Picture

/-!
# Pictures on a terminal

A picture is written row by row. A sequence of control characters moves to the start of a row, and
another one tells the style of the cells that follow.
-/

namespace HomeConsole.Output

/-- The beginning of a sequence. -/
def control : String := "\x1b["

/-- What a terminal is sent before the first picture: another screen, and no cursor. -/
def opening : String := control ++ "?1049h" ++ control ++ "?25l"

/-- What a terminal is sent after the last picture. -/
def closing : String := control ++ "0m" ++ control ++ "?25h" ++ control ++ "?1049l"

/-- The number of a colour of the text; that of the ground is ten more. -/
def colorNumber : Color → Nat
  | .black => 30
  | .red => 31
  | .green => 32
  | .yellow => 33
  | .cyan => 36
  | .gray => 37
  | .darkGray => 90
  | .white => 97

/-- The numbers that stand for a style; zero takes back every style before. -/
def styleNumbers (style : Style) : List Nat :=
  0 :: (style.foreground.map colorNumber).toList ++
    (style.background.map fun color => colorNumber color + 10).toList ++
    (if style.bold then [1] else []) ++ (if style.underlined then [4] else []) ++
    (if style.reversed then [7] else [])

/-- The sequence for a style. -/
def styleText (style : Style) : String :=
  control ++ ";".intercalate ((styleNumbers style).map toString) ++ "m"

/-- The sequence that moves to a cell. -/
def place (x y : Nat) : String := control ++ toString (y + 1) ++ ";" ++ toString (x + 1) ++ "H"

/-- The text of a row. Cells behind a wide sign are left out, for the terminal draws that sign over
them. -/
def row (cells : List Cell) : String :=
  let rec go (style : Option Style) (hidden : Nat) (text : String) : List Cell → String
    | [] => text
    | cell :: cells =>
      if 0 < hidden then go style (hidden - 1) text cells
      else
        let change := if style = some cell.style then "" else styleText cell.style
        go (some cell.style) (columns cell.symbol - 1) (text ++ change ++ cell.symbol) cells
  go none 0 "" cells

/-- The rows of a picture, each at its place, from row `y` on. -/
def rows (y : Nat) : List (List Cell) → String
  | [] => ""
  | cells :: more => place 0 y ++ row cells ++ rows (y + 1) more

/-- The cursor at a place, or none. -/
def cursor : Option (Nat × Nat) → String
  | some (x, y) => place x y ++ control ++ "?25h"
  | none => control ++ "?25l"

/-- A picture and a cursor. -/
def screen (picture : Picture) (spot : Option (Nat × Nat)) : String :=
  rows 0 picture.rows ++ cursor spot

end HomeConsole.Output
