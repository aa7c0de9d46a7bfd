import HomeConsole.Panel.Flag
import HomeConsole.Panel.Still
import HomeConsole.Screen.Window
import HomeConsole.Text.Fit
import HomeConsole.View

/-!
# The overview

All records, one in a row, of which one is chosen. Keys move the choice and open the chosen record.
-/

namespace HomeConsole

/-- Which row is chosen, and which rows are seen. -/
structure Overview where
  chosen : Nat := 0
  /-- The row that is marked when the list is drawn. -/
  marked : Option Nat := none
  /-- The first row that is seen. -/
  first : Nat := 0
  /-- The number of rows, as far as it is known. -/
  count : Nat := 0
deriving DecidableEq, Inhabited

namespace Overview

/-- Takes note of the number of rows. The choice stays among them. -/
def resize (overview : Overview) (count : Nat) : Overview :=
  if count = 0 then ⟨0, none, 0, 0⟩
  else
    let chosen := min overview.chosen (count - 1)
    { overview with chosen, marked := some chosen, count }

/-- Chooses a row. -/
def choose (overview : Overview) (row : Nat) : Overview :=
  { overview with chosen := row, marked := some row }

/-- Takes a key in, and says which row it opens. -/
def press (overview : Overview) (key : Key) : Overview × Option Nat :=
  if overview.count = 0 then (overview, none)
  else
    match key with
    | .up => (overview.choose (overview.chosen - 1), none)
    | .down => (overview.choose (min (overview.chosen + 1) (overview.count - 1)), none)
    | .enter => (overview, some overview.chosen)
    | _ => (overview, none)

/-! ## Rows -/

/-- The columns for a name in a row. -/
def nameWidth (width : Nat) : Nat := max (width / 3) 8

/-- The columns before the description in a row: a flag, the id and the name, with blanks. -/
def beforeDescription (width : Nat) : Nat := 1 + 2 + 4 + 2 + nameWidth width + 2

/-- The style of a row. -/
def rowStyle (isChosen : Bool) : Style :=
  if isChosen then { foreground := some .white, bold := true, reversed := true }
  else .colored .gray

/-- The id of a record in a row. -/
def idCell (record : Record) : String := padStart (record.id?.getD "?") 4

/-- The name of a record in a row. -/
def nameCell (record : Record) (width : Nat) : String :=
  padEnd (truncate (record.name?.getD "(unnamed)") (nameWidth width)) (nameWidth width)

/-- The sign at the front of a row. -/
def rowFlag (record : Record) : Span :=
  match record.active? with
  | some active => (FlagSign.of active).span
  | none => ⟨" ", .plain⟩

/-- The description at the end of a row, if there is one. -/
def rowDescription (record : Record) (isChosen : Bool) (width : Nat) : Line :=
  match record.description? with
  | some text =>
    [⟨"  ", rowStyle isChosen⟩,
      ⟨truncate text (width - beforeDescription width),
        if isChosen then rowStyle isChosen else .colored .darkGray⟩]
  | none => []

/-- The row of a record. -/
def row (record : Record) (isChosen : Bool) (width : Nat) : Line :=
  [rowFlag record, ⟨"  ", rowStyle isChosen⟩, ⟨idCell record, rowStyle isChosen⟩,
    ⟨"  ", rowStyle isChosen⟩, ⟨nameCell record width, rowStyle isChosen⟩] ++
    rowDescription record isChosen width

/-! ## Drawing -/

/-- The box of the overview. -/
def box : Box where
  title := " Modules "
  footer := some " ↑↓ Select  Enter Open  r Reload "
  borderStyle := .colored .darkGray
  padding := 1

/-- Draws the rows of a window one below the other. -/
def drawRows (rows : List Line) (window : Window) (canvas : Canvas) (area : Area) : Canvas :=
  (((rows.drop window.first).take window.size).zip area.rows).foldl (fun canvas (line, y) =>
    canvas.drawLine { area with y, height := 1 } line .left) canvas

/-- The rows that are seen in an area of some height. -/
def window (overview : Overview) (count height : Nat) : Window :=
  let known := overview.resize count
  Window.around known.marked known.first count height

/-- The overview after its rows were drawn in an area. -/
def settle (overview : Overview) (count : Nat) (area : Area) : Overview :=
  let known := overview.resize count
  if area.isEmpty then known
  else { known with first := (overview.window count area.height).first }

/-- Draws rows in the box of the overview, and says what the overview is then. -/
def drawList (overview : Overview) (rows : List Line) (canvas : Canvas) (area : Area) :
    Canvas × Overview :=
  let area := area.clip canvas.area
  let inner := box.inside area
  let canvas := box.draw canvas area
  let canvas :=
    if inner.isEmpty then canvas
    else drawRows rows (overview.window rows.length inner.height) canvas inner
  (canvas, overview.settle rows.length inner)

/-- Draws the overview of records, and says what it is then. -/
def draw (overview : Overview) (records : Load (List Record)) (canvas : Canvas) (area : Area) :
    Canvas × Overview :=
  match records with
  | .failed error => (Panel.drawFailure error.message canvas area, overview)
  | .loading => ((Panel.note "Loading modules…" (some box)).draw canvas area, overview)
  | .notLoaded => ((Panel.note "Press r to load modules." (some box)).draw canvas area, overview)
  | .loaded [] => ((Panel.note "No modules." (some box)).draw canvas area, overview)
  | .loaded records =>
    let chosen := (overview.resize records.length).chosen
    let rows := records.mapIdx fun i record => row record (i == chosen) (area.width - 4)
    overview.drawList rows canvas area

end Overview

end HomeConsole
