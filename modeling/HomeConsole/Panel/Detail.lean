import HomeConsole.Panel.Flag
import HomeConsole.Panel.Still
import HomeConsole.Screen.Scroll
import HomeConsole.Text.Fit
import HomeConsole.View

/-!
# The detail of a record

One record, either as a listing of its members or as indented JSON. Keys scroll it, switch between
the two forms, and leave it.
-/

namespace HomeConsole

/-- In which form a record is shown, and how far it is scrolled. -/
structure Detail where
  raw : Bool := false
  scroll : Scroll := {}
deriving DecidableEq, Inhabited

namespace Detail

/-- The label of the switch between the two forms. -/
def switchLabel : String := "raw json"

/-- The switch between the two forms. -/
def switch (detail : Detail) : Switch := ⟨switchLabel, detail.raw⟩

/-- Takes a key in, and says whether it leaves the record. Another form is shown from its top. -/
def press (detail : Detail) (key : Key) : Detail × Bool :=
  match key with
  | .escape | .backspace => (detail, true)
  | .up => ({ detail with scroll := detail.scroll.up }, false)
  | .down => ({ detail with scroll := detail.scroll.down }, false)
  | .pageUp => ({ detail with scroll := detail.scroll.pageUp }, false)
  | .pageDown => ({ detail with scroll := detail.scroll.pageDown }, false)
  | key =>
    if Switch.isTurnedBy key then (⟨!detail.raw, detail.scroll.toTop⟩, false)
    else (detail, false)

/-! ## Lines -/

/-- The lines of indented JSON. -/
def rawLines (record : Record) : List Line :=
  (linesOf record.value.pretty).map fun line => if line.isEmpty then [] else [⟨line, .plain⟩]

/-- The value of a member. -/
def valueSpan : Json → Span
  | .bool b => (FlagSign.of b).span
  | .string s => ⟨s, .plain⟩
  | .null => ⟨"null", .colored .darkGray⟩
  | value => ⟨value.compact, .plain⟩

/-- The number of characters of the longest name. -/
def nameWidth (members : List (String × Json)) : Nat :=
  (members.map fun member => member.1.length).foldl max 0

/-- The line of a member, with its name filled up to a number of characters. -/
def memberLine (width : Nat) (member : String × Json) : Line :=
  [⟨" " ++ padEnd member.1 width, .colored .cyan⟩, ⟨"  ", .plain⟩, valueSpan member.2]

/-- One line for each member of an object; other values are shown as indented JSON. -/
def fieldLines (record : Record) : List Line :=
  match record.value with
  | .object members => members.map (memberLine (nameWidth members))
  | _ => rawLines record

/-- The lines of a record in the form that is shown. -/
def lines (detail : Detail) (record : Record) : List Line :=
  if detail.raw then rawLines record else fieldLines record

/-! ## Drawing -/

/-- Draws the line above the record: its id, and the switch. -/
def drawHeader (detail : Detail) (id : String) (canvas : Canvas) (area : Area) : Canvas :=
  let title : Line := [⟨" Module " ++ id, { foreground := some .yellow, bold := true }⟩]
  (canvas.drawLine area title .left).drawLine area detail.switch.line .right

/-- Draws a record, and says what its detail is then. -/
def draw (detail : Detail) (id : String) (record : Load Record) (canvas : Canvas) (area : Area) :
    Canvas × Detail :=
  let (top, body) := area.cutTop
  let canvas := detail.drawHeader id canvas top
  match record with
  | .failed error => (Panel.drawFailure error.message canvas body, detail)
  | .loading => ((Panel.note "Loading module…" none).draw canvas body, detail)
  | .notLoaded => ((Panel.note "Press r to load this module." none).draw canvas body, detail)
  | .loaded record =>
    let (canvas, scroll) := canvas.drawScrolled body (detail.lines record) detail.scroll
    (canvas, { detail with scroll })

end Detail

end HomeConsole
