import HomeConsole.Screen.Area
import HomeConsole.Screen.Line

/-!
# Canvases

A grid of cells, and the drawing of styled text on it. Who draws takes care to stay on the grid: a
cell beside it can neither be read nor changed, and the canvas notes that it was asked for, which is
the end of a running console.
-/

namespace HomeConsole

/-- A cell of a canvas: a sign and its style. -/
structure Cell where
  symbol : String := " "
  style : Style := .plain
deriving DecidableEq, Inhabited

namespace Cell

/-- An empty cell. -/
def blank : Cell := {}

/-- The cell in a style laid over its own. -/
def styled (cell : Cell) (style : Style) : Cell := { cell with style := style.onto cell.style }

/-- The cell with another sign. -/
def put (cell : Cell) (symbol : String) (style : Style) : Cell :=
  { symbol, style := style.onto cell.style }

/-- The cell with a sign added to its own. -/
def add (cell : Cell) (symbol : String) (style : Style) : Cell :=
  { symbol := cell.symbol ++ symbol, style := style.onto cell.style }

end Cell

/-- A grid of cells, row by row. -/
structure Canvas where
  width : Nat
  height : Nat
  cells : Array Cell
  size_cells : cells.size = width * height
  /-- No cell beside the grid was asked for. -/
  intact : Bool := true

namespace Canvas

/-- An empty canvas. -/
def blank (width height : Nat) : Canvas :=
  { width, height
    cells := Array.replicate (width * height) .blank
    size_cells := by simp }

/-- The whole canvas. -/
def area (canvas : Canvas) : Area := ⟨0, 0, canvas.width, canvas.height⟩

/-- The cell at a place. -/
def get? (canvas : Canvas) (x y : Nat) : Option Cell :=
  if x < canvas.width ∧ y < canvas.height then canvas.cells[y * canvas.width + x]? else none

/-- The canvas once a cell beside the grid was asked for. -/
def broken (canvas : Canvas) : Canvas := { canvas with intact := false }

/-- Changes the cell at a place. -/
def modify (canvas : Canvas) (x y : Nat) (f : Cell → Cell) : Canvas :=
  if x < canvas.width ∧ y < canvas.height then
    { canvas with
      cells := canvas.cells.modify (y * canvas.width + x) f
      size_cells := by simpa using canvas.size_cells }
  else canvas.broken

/-- Lays a style over the cells of an area. -/
def fill (canvas : Canvas) (area : Area) (style : Style) : Canvas :=
  area.rows.foldl (fun canvas y =>
    area.columns.foldl (fun canvas x => canvas.modify x y (·.styled style)) canvas) canvas

/-- Puts the same sign into cells side by side. -/
def putRow (canvas : Canvas) (x y n : Nat) (symbol : String) (style : Style) : Canvas :=
  (List.range' x n).foldl (fun canvas x => canvas.modify x y (·.put symbol style)) canvas

/-- Puts the same sign into cells one below the other. -/
def putColumn (canvas : Canvas) (x y n : Nat) (symbol : String) (style : Style) : Canvas :=
  (List.range' y n).foldl (fun canvas y => canvas.modify x y (·.put symbol style)) canvas

/-- Empties cells side by side. -/
def clearRow (canvas : Canvas) (x y n : Nat) : Canvas :=
  (List.range' x n).foldl (fun canvas x => canvas.modify x y fun _ => .blank) canvas

/-- Draws glyphs in a row, from column `x` on and up to, but without, column `stop`. The first one
replaces a sign even if it has no columns; others without columns join the sign before them. The
cells below the rest of a wide glyph are emptied. -/
def drawGlyphs (y start stop : Nat) (x : Nat) (first : Bool) (canvas : Canvas) :
    List Glyph → Canvas
  | [] => canvas
  | glyph :: glyphs =>
    let columns := glyph.columns
    if x + columns > stop then canvas
    else
      let canvas :=
        if first then canvas.modify x y (·.put glyph.symbol glyph.style)
        else if x = start then canvas.modify x y (·.add glyph.symbol glyph.style)
        else if columns = 0 then canvas.modify (x - 1) y (·.add glyph.symbol glyph.style)
        else canvas.modify x y (·.put glyph.symbol glyph.style)
      drawGlyphs y start stop (x + columns) false (canvas.clearRow (x + 1) y (columns - 1)) glyphs

/-- Draws a span in the first row of an area. -/
def drawSpan (canvas : Canvas) (area : Area) (span : Span) : Canvas :=
  let area := area.clip canvas.area
  if area.isEmpty then canvas
  else drawGlyphs area.y area.x area.right area.x true canvas span.glyphs

/-- Draws spans side by side in the first row of an area, each after some blanks. -/
def drawSpans (area : Area) (canvas : Canvas) : List (Nat × Nat × Span) → Canvas
  | [] => canvas
  | (blanks, columns, span) :: spans =>
    let area := area.indent blanks
    if area.isEmpty then canvas
    else drawSpans (area.indent columns) (canvas.drawSpan area span) spans

/-- Draws a line in the first row of an area. Of a line that is too long, the alignment says which
part is seen. -/
def drawLine (canvas : Canvas) (area : Area) (line : Line) (alignment : Alignment) : Canvas :=
  let area := area.clip canvas.area
  let columns := line.columns
  if area.isEmpty ∨ columns = 0 then canvas
  else if columns ≤ area.width then
    let free := area.width - columns
    let blanks := match alignment with
      | .left => 0
      | .center => free / 2
      | .right => free
    drawSpans (area.indent blanks) canvas (line.after 0)
  else
    let excess := columns - area.width
    let skip := match alignment with
      | .left => 0
      | .center => excess / 2
      | .right => excess
    drawSpans area canvas (line.after skip)

end Canvas

end HomeConsole
