import HomeConsole.Console.Basic

/-!
# One step of the console

`update` takes an action in and says what the console is then, what it asks for, and what it notes
in its log. It makes no reads itself.
-/

namespace HomeConsole

/-- The outcome of an action. -/
structure Transition where
  console : Console
  effect : Effect
  notices : List Notice

namespace Console

/-- Starts the next activation, with the read of the view if it has one. -/
def begin (console : Console) : Transition :=
  let activation := console.activation + 1
  match console.view.endpoint? with
  | some endpoint =>
    { console := { console with activation, view := console.view.loading }
      effect := .fetch ⟨activation, endpoint⟩
      notices := [.fetching activation endpoint] }
  | none => ⟨{ console with activation }, .none, []⟩

/-- What is noted on the way to a page. -/
def navigateNotices (found : Resolution) : List Notice :=
  let redirects := match found.redirectedFrom with
    | some source => [Notice.redirecting source found.path]
    | none => []
  redirects ++ [.navigating found.path found.route.page]

/-- The status on arrival at a page. -/
def arrivalStatus (found : Resolution) : String :=
  match found.redirectedFrom with
  | some source => "No page at " ++ source
  | none => ""

/-- Goes to the page behind a path and starts its activation. -/
def navigate (console : Console) (path : String) : Transition :=
  let found := Route.resolve path
  let next := { console with
    path := found.path
    page := found.route.page
    view := View.activate found
    status := arrivalStatus found }.begin
  { next with notices := navigateNotices found ++ next.notices }

/-- The status after the read of a list. -/
def listStatus : Outcome (List Record) → String
  | .ok records => "Loaded " ++ toString records.length ++ " modules"
  | .error error => "Loading modules failed: " ++ error.message

/-- The status after the read of the record with an id. -/
def recordStatus (id : String) : Outcome Record → String
  | .ok _ => "Loaded module " ++ id
  | .error error => "Loading module " ++ id ++ " failed: " ++ error.message

/-- The notices about an outcome: a failure is noted, a success is not. -/
def outcomeNotices {α : Type} (view : View) : Outcome α → List Notice
  | .ok _ => []
  | .error error => view.failureNotice error

/-- Takes in an answer of the current activation. One of the other kind is ignored. -/
def receive (console : Console) (answer : Answer) : Transition :=
  match console.view, answer with
  | view@(.overview _), .list outcome =>
    { console := { console with status := listStatus outcome, view := view.finish answer }
      effect := .none
      notices := outcomeNotices view outcome }
  | view@(.detail id _), .one outcome =>
    { console := { console with status := recordStatus id outcome, view := view.finish answer }
      effect := .none
      notices := outcomeNotices view outcome }
  | _, _ => ⟨console, .none, []⟩

/-- Takes in an answer if it belongs to the current activation, and drops it otherwise. -/
def deliver (console : Console) (activation : UInt64) (answer : Answer) : Transition :=
  if activation = console.activation then console.receive answer
  else ⟨console, .none, [.stale activation console.activation]⟩

/-- One step of the console. -/
def update (console : Console) : Action → Transition
  | .navigate path => console.navigate path
  | .openRecord record =>
    match record.id?, record.path? with
    | some id, some path =>
      let next := console.navigate path
      { next with notices := .opening id :: next.notices }
    | _, _ => ⟨{ console with status := "Module has no id" }, .none, [.noId]⟩
  | .reload => console.begin
  | .listLoaded activation outcome => console.deliver activation (.list outcome)
  | .recordLoaded activation outcome => console.deliver activation (.one outcome)
  | .quit => ⟨console, .quit, []⟩

end Console

end HomeConsole
