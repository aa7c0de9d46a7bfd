/-!
# Areas

Rectangles of cells, and how a page is cut into them.
-/

namespace HomeConsole

/-- A rectangle of cells, by its upper left cell and its extent. -/
structure Area where
  x : Nat
  y : Nat
  width : Nat
  height : Nat
deriving DecidableEq, Inhabited

namespace Area

/-- The column behind the last one. -/
def right (area : Area) : Nat := area.x + area.width

/-- The row below the last one. -/
def bottom (area : Area) : Nat := area.y + area.height

/-- Whether there is no cell in the area. -/
def isEmpty (area : Area) : Bool := area.width == 0 || area.height == 0

/-- The rows of the area. -/
def rows (area : Area) : List Nat := List.range' area.y area.height

/-- The columns of the area. -/
def columns (area : Area) : List Nat := List.range' area.x area.width

/-- The part of an area that lies in another one. -/
def clip (area bounds : Area) : Area :=
  let x := max area.x bounds.x
  let y := max area.y bounds.y
  ⟨x, y, min area.right bounds.right - x, min area.bottom bounds.bottom - y⟩

/-- The area without some columns at its left side. -/
def indent (area : Area) (n : Nat) : Area :=
  let n := min n area.width
  { area with x := area.x + n, width := area.width - n }

/-- The top row, and the rest. -/
def cutTop (area : Area) : Area × Area :=
  let n := min 1 area.height
  ({ area with height := n }, { area with y := area.y + n, height := area.height - n })

/-- The top row, the middle and the bottom row. Where there is one row only it is the bottom one. -/
def cutPage (area : Area) : Area × Area × Area :=
  let last := min 1 area.height
  let first := min 1 (area.height - last)
  ({ area with height := first },
    { area with y := area.y + first, height := area.height - first - last },
    { area with y := area.y + area.height - last, height := last })

/-- Rows in the middle of an area; of two middles the lower one. -/
def middle (area : Area) (rows : Nat) : Area :=
  let n := min rows area.height
  { area with y := area.y + (area.height - n + 1) / 2, height := n }

/-- The cells inside a border of one cell. -/
def inside (area : Area) : Area :=
  ⟨min (area.x + 1) area.right, min (area.y + 1) area.bottom, area.width - 2, area.height - 2⟩

/-- The area without some columns at either side. -/
def padded (area : Area) (n : Nat) : Area :=
  { area with x := area.x + n, width := area.width - 2 * n }

end Area

end HomeConsole
