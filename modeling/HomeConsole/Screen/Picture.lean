import HomeConsole.Screen.Canvas

/-!
# What a terminal shows

A canvas is sent to a terminal cell by cell. The cells behind a wide sign are not sent, for the
terminal draws that sign over them.
-/

namespace HomeConsole

/-- A picture on a terminal: its rows of cells. -/
structure Picture where
  rows : List (List Cell)

namespace Picture

/-- Cells as they are shown. The first one is hidden if it lies right behind a wide sign, unless it
is among those that are sent all the same: a sign that a selector has made wide sends the cells
behind it, for not every terminal draws such a sign over them. -/
def shown (behindWide : Bool) (sent : Nat) : List Cell → List Cell
  | [] => []
  | cell :: cells =>
    let wide := columns cell.symbol
    let sent' :=
      if !behindWide && wide > 1 && cell.symbol.contains '\uFE0F' then wide - 1 else sent - 1
    (if behindWide && sent == 0 then .blank else cell) :: shown (wide > 1) sent' cells

/-- What a terminal that was empty shows of a canvas. -/
def ofCanvas (canvas : Canvas) : Picture :=
  let rec cut (n : Nat) (cells : List Cell) : List (List Cell) :=
    match n with
    | 0 => []
    | n + 1 => cells.take canvas.width :: cut n (cells.drop canvas.width)
  ⟨cut canvas.height (shown false 0 canvas.cells.toList)⟩

/-- The text of a row. -/
def rowText (row : List Cell) : String := row.foldl (fun text cell => text ++ cell.symbol) ""

/-- The text of a row as it is seen: without the cells that lie behind a wide sign. -/
def seenText (row : List Cell) : String :=
  let rec go (hidden : Nat) (text : String) : List Cell → String
    | [] => text
    | cell :: cells =>
      if 0 < hidden then go (hidden - 1) text cells
      else go (columns cell.symbol - 1) (text ++ cell.symbol) cells
  go 0 "" row

/-- The runs of cells of one style in a row: where each begins, and how long it is. Cells of the
plain style are left out. -/
def runs (row : List Cell) : List (Nat × Nat × Style) :=
  let rec go (x : Nat) (current : Option (Nat × Nat × Style)) : List Cell → List (Nat × Nat × Style)
    | [] => current.toList
    | cell :: cells =>
      match current with
      | some (start, n, style) =>
        if cell.style = style then go (x + 1) (some (start, n + 1, style)) cells
        else (start, n, style) :: go (x + 1) (begin x cell) cells
      | none => go (x + 1) (begin x cell) cells
  go 0 none row
where
  /-- A run that begins at a cell. -/
  begin (x : Nat) (cell : Cell) : Option (Nat × Nat × Style) :=
    if cell.style = .plain then none else some (x, 1, cell.style)

end Picture

end HomeConsole
