import HomeConsole.Screen.Canvas

/-!
# Boxes

A border around an area, with a title in its top line and one in its bottom line.
-/

namespace HomeConsole

/-- A border with its titles. -/
structure Box where
  /-- At the left of the top line. -/
  title : String
  /-- In the middle of the bottom line. -/
  footer : Option String := none
  borderStyle : Style := .plain
  /-- Blank columns inside the border, at either side. -/
  padding : Nat := 0

namespace Box

/-- The area inside a box. -/
def inside (box : Box) (area : Area) : Area := area.inside.padded box.padding

/-- The border: its sides, then its corners. -/
def drawBorder (box : Box) (canvas : Canvas) (area : Area) : Canvas :=
  let style := box.borderStyle
  let right := area.right - 1
  let bottom := area.bottom - 1
  let canvas := canvas.putColumn area.x (area.y + 1) (area.height - 2) "│" style
  let canvas := canvas.putRow (area.x + 1) area.y (area.width - 2) "─" style
  let canvas := canvas.putColumn right (area.y + 1) (area.height - 2) "│" style
  let canvas := canvas.putRow (area.x + 1) bottom (area.width - 2) "─" style
  let canvas := canvas.modify right bottom (·.put "┘" style)
  let canvas := canvas.modify right area.y (·.put "┐" style)
  let canvas := canvas.modify area.x bottom (·.put "└" style)
  canvas.modify area.x area.y (·.put "┌" style)

/-- The part of the top or of the bottom line between the corners. -/
def titleArea (area : Area) (y : Nat) : Area := ⟨area.x + 1, y, area.width - 2, 1⟩

/-- The title at the left of the top line. -/
def drawTitle (box : Box) (canvas : Canvas) (area : Area) : Canvas :=
  let free := titleArea area area.y
  if free.isEmpty then canvas
  else
    let line : Line := [⟨box.title, .plain⟩]
    canvas.drawLine { free with width := min line.columns free.width } line .left

/-- A text in the middle of the bottom line; of one that is too long, both ends are cut. -/
def drawFooter (canvas : Canvas) (area : Area) (text : String) : Canvas :=
  let free := titleArea area (area.bottom - 1)
  let line : Line := [⟨text, .plain⟩]
  let columns := line.columns
  if columns ≤ free.width then
    canvas.drawLine ⟨free.x + (free.width - columns) / 2, free.y, columns, 1⟩ line .left
  else if free.isEmpty then canvas
  else
    let cut := (columns - free.width) / 2
    let part := { free with width := free.width - cut }
    canvas.drawLine part line (if cut = 0 then .left else .right)

/-- Draws a box. -/
def draw (box : Box) (canvas : Canvas) (area : Area) : Canvas :=
  let area := area.clip canvas.area
  if area.isEmpty then canvas
  else
    let canvas := box.drawTitle (box.drawBorder canvas area) area
    match box.footer with
    | some text => drawFooter canvas area text
    | none => canvas

end Box

end HomeConsole
