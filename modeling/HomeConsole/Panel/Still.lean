import HomeConsole.Screen.Paragraph

/-!
# Panels without a state

The landing page, the dashboard, the panel of a failure, and short notes in place of data.
-/

namespace HomeConsole.Panel

/-- The version of the console. -/
def version : String := "0.1.0"

/-- The lines of the landing page. -/
def homeLines : List Line :=
  [[⟨"Domos", { foreground := some .yellow, bold := true }⟩],
    [⟨"v" ++ version, .colored .darkGray⟩],
    [],
    [⟨"m modules   d dashboard   : go to path", .colored .gray⟩]]

/-- Draws the landing page. -/
def drawHome (canvas : Canvas) (area : Area) : Canvas :=
  Paragraph.draw { lines := homeLines, alignment := .center } canvas
    (area.middle homeLines.length)

/-- A short text in place of data. -/
def note (text : String) (box : Option Box) : Paragraph where
  lines := Paragraph.textLines text
  style := .colored .darkGray
  alignment := .center
  box

/-- Draws the dashboard. -/
def drawDashboard (canvas : Canvas) (area : Area) : Canvas :=
  (note "Nothing on the dashboard yet." (some { title := " Dashboard " })).draw canvas area

/-- The wording of a failure in a box. -/
def failure (message : String) : Paragraph where
  lines := Paragraph.textLines message
  style := .colored .red
  alignment := .center
  box := some { title := " ERROR ", borderStyle := .colored .red }
  wraps := true

/-- Draws the wording of a failure. -/
def drawFailure (message : String) (canvas : Canvas) (area : Area) : Canvas :=
  (failure message).draw canvas area

end HomeConsole.Panel
