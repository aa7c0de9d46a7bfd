import HomeConsole.Panel.Navigation
import HomeConsole.Presentation.Basic

/-!
# Drawing the console

The whole screen: the navigation bar on top, the page, and at the bottom a line of help or the open
prompt. Drawing may move what is seen of a list or of a record; it changes nothing else.
-/

namespace HomeConsole

/-- A drawn screen. -/
structure Drawing where
  canvas : Canvas
  presentation : Presentation
  /-- Where the cursor is, while a prompt is open. -/
  cursor : Option (Nat × Nat)

namespace Presentation

/-- The help for a page. -/
def help : View → String
  | .overview _ => " ↑↓ select  Enter open  r reload  h home  d dashi  : path  q quit"
  | .detail _ _ => " ↑↓ scroll  Space raw json  Esc back  r reload  : path  q quit"
  | .home | .dashboard => " h home  m modules  d dashi  : path  q quit"

/-- The navigation bar of a console. -/
def navigation (console : Console) (turn : Nat) : Navigation where
  page := console.page
  path := console.path
  login := console.login
  status := console.status
  spinner := if console.view.isLoading then some turn else none

/-- Draws a page. -/
def drawView (presentation : Presentation) (view : View) (canvas : Canvas) (area : Area) :
    Canvas × Presentation :=
  match view with
  | .home => (Panel.drawHome canvas area, presentation)
  | .dashboard => (Panel.drawDashboard canvas area, presentation)
  | .overview records =>
    let (canvas, overview) := presentation.overview.draw records canvas area
    (canvas, { presentation with overview })
  | .detail id record =>
    let (canvas, detail) := presentation.detail.draw id record canvas area
    (canvas, { presentation with detail })

/-- Draws the screen on an empty canvas of a size. -/
def draw (presentation : Presentation) (console : Console) (width height turn : Nat) : Drawing :=
  let canvas := Canvas.blank width height
  let (top, page, bottom) := canvas.area.cutPage
  let canvas := canvas.drawLine top (navigation console turn).line .left
  let (canvas, presentation) := presentation.drawView console.view canvas page
  match presentation.prompt with
  | some prompt =>
    ⟨prompt.draw canvas bottom, presentation, some ((prompt.cursor bottom).toNat, bottom.y)⟩
  | none =>
    ⟨canvas.drawSpan bottom ⟨help console.view, .colored .darkGray⟩, presentation, none⟩

end Presentation

end HomeConsole
