import HomeConsole.Screen.Box
import HomeConsole.Screen.Wrap
import HomeConsole.Text.Lines

/-!
# Paragraphs

Lines one below the other, in one style, perhaps in a box. Lines that are too long are either cut or
broken.
-/

namespace HomeConsole

/-- A block of lines. -/
structure Paragraph where
  lines : List Line
  style : Style := .plain
  alignment : Alignment := .left
  box : Option Box := none
  /-- Long lines are broken instead of being cut. -/
  wraps : Bool := false

namespace Paragraph

/-- The lines of a text; a text without lines has one empty line. -/
def textLines (text : String) : List Line :=
  if text.isEmpty then [[⟨"", .plain⟩]] else (linesOf text).map fun line => [⟨line, .plain⟩]

/-- The rows of glyphs that the lines make in a width. -/
def rows (paragraph : Paragraph) (width : Nat) : List (List Glyph) :=
  let glyphs := paragraph.lines.map fun line =>
    line.glyphs.map fun glyph => { glyph with style := glyph.style.onto paragraph.style }
  if paragraph.wraps then glyphs.flatMap (wrapGlyphs width) else glyphs.map (cutGlyphs width)

/-- The blanks before a row. -/
def blanks (alignment : Alignment) (width columns : Nat) : Nat :=
  match alignment with
  | .left => 0
  | .center => width / 2 - columns / 2
  | .right => width - columns

/-- Draws the glyphs of a row that have columns. -/
def drawRow (y x : Nat) (canvas : Canvas) : List Glyph → Canvas
  | [] => canvas
  | glyph :: glyphs =>
    let columns := glyph.columns
    if columns = 0 then drawRow y x canvas glyphs
    else drawRow y (x + columns) (canvas.modify x y (·.put glyph.symbol glyph.style)) glyphs

/-- Draws a paragraph. -/
def draw (paragraph : Paragraph) (canvas : Canvas) (area : Area) : Canvas :=
  let area := area.clip canvas.area
  let canvas := canvas.fill area paragraph.style
  let (canvas, area) := match paragraph.box with
    | some box => (box.draw canvas area, box.inside area)
    | none => (canvas, area)
  if area.isEmpty then canvas
  else
    let rows := (paragraph.rows area.width).take area.height
    (area.rows.zip rows).foldl (fun canvas (y, glyphs) =>
      let start := area.x + blanks paragraph.alignment area.width (glyphColumns glyphs)
      drawRow y start canvas glyphs) canvas

end Paragraph

end HomeConsole
