import HomeConsole.Console.Update
import HomeConsole.Panel.Detail
import HomeConsole.Panel.Overview
import HomeConsole.Panel.Prompt

/-!
# The presentation of the console

What the screen remembers beside the state of the console: the choice in the overview, the scrolling
of a record, and an open prompt. Keys change it, and some of them make an action.
-/

namespace HomeConsole

/-- What the screen remembers. -/
structure Presentation where
  overview : Overview := {}
  detail : Detail := {}
  /-- The prompt, while it is open. -/
  prompt : Option Prompt := none
  /-- The path of the page that all this belongs to. -/
  path : String := "/"
deriving DecidableEq, Inhabited

namespace Presentation

/-- The presentation of a console that was just started. -/
def new : Presentation := {}

/-- Follows the console to a path. Another page starts afresh; an open prompt stays. -/
def follow (presentation : Presentation) (path : String) : Presentation :=
  if presentation.path = path then presentation
  else { presentation with overview := {}, detail := {}, path }

/-- The action of a key that means the same on every page. -/
def globalAction? : Key → Option Action
  | .char 'q' => some .quit
  | .char 'h' => some (.navigate "/")
  | .char 'm' => some (.navigate "/modules")
  | .char 'd' => some (.navigate "/dashi")
  | .char 'r' => some .reload
  | _ => none

/-- A key in an open prompt. -/
def pressPrompt (presentation : Presentation) (prompt : Prompt) (key : Key) :
    Presentation × Option Action :=
  match prompt.press key with
  | (_, some (.submit path)) => ({ presentation with prompt := none }, some (.navigate path))
  | (_, some .cancel) => ({ presentation with prompt := none }, none)
  | (prompt, none) => ({ presentation with prompt := some prompt }, none)

/-- A key on a page. -/
def pressPage (presentation : Presentation) (view : View) (key : Key) :
    Presentation × Option Action :=
  match view with
  | .overview (.loaded records) =>
    let (overview, opened) := (presentation.overview.resize records.length).press key
    ({ presentation with overview }, opened.bind fun row => records[row]?.map Action.openRecord)
  | .detail _ _ =>
    let (detail, leaves) := presentation.detail.press key
    ({ presentation with detail }, if leaves then some (.navigate "/modules") else none)
  | _ => (presentation, none)

/-- Takes a key in, and says which action it makes. -/
def press (presentation : Presentation) (view : View) (key : Key) :
    Presentation × Option Action :=
  match key with
  | .interrupt => (presentation, some .quit)
  | .resize => (presentation, none)
  | key =>
    match presentation.prompt with
    | some prompt => presentation.pressPrompt prompt key
    | none =>
      if key = .char ':' then ({ presentation with prompt := some {} }, none)
      else
        match globalAction? key with
        | some action => (presentation, some action)
        | none => presentation.pressPage view key

end Presentation

end HomeConsole
