import HomeConsole.Backend.Source
import HomeConsole.Notice
import HomeConsole.Route

/-!
# Views

What a page shows, and the one read, if any, that fills it. `endpoint?` names the read. A load has
two halves: `loading` marks the view, and `finish` takes in the answer. `load` runs both against a
source.
-/

namespace HomeConsole

/-- How far the data of a view have come. -/
inductive Load (α : Type) where
  | notLoaded
  | loading
  | loaded (data : α)
  | failed (error : ReadError)
deriving Repr, Inhabited

namespace Load

variable {α : Type}

/-- What an outcome leaves behind. -/
def ofOutcome : Outcome α → Load α
  | .ok data => loaded data
  | .error error => failed error

/-- Whether an answer is waited for. -/
def isLoading : Load α → Bool
  | loading => true
  | _ => false

/-- The data, once they are there. -/
def data? : Load α → Option α
  | loaded data => some data
  | _ => none

/-- The failure, if there was one. -/
def error? : Load α → Option ReadError
  | failed error => some error
  | _ => none

end Load

/-- A page with its data. -/
inductive View where
  | home
  | dashboard
  | overview (records : Load (List Record))
  | detail (id : String) (record : Load Record)
deriving Repr, Inhabited

namespace View

/-- The page that a view belongs to. -/
def page : View → Page
  | home => .home
  | dashboard => .dashboard
  | overview _ => .overview
  | detail _ _ => .detail

/-- The view of a page that was just reached. -/
def activate (found : Resolution) : View :=
  match found.route.page with
  | .home => home
  | .dashboard => dashboard
  | .overview => overview .notLoaded
  | .detail => detail ((found.params.get? "id").getD "") .notLoaded

/-- The read that fills the view. -/
def endpoint? : View → Option Endpoint
  | overview _ => some .list
  | detail id _ => some (.one id)
  | _ => none

/-- The view with its read under way. -/
def loading : View → View
  | overview _ => overview .loading
  | detail id _ => detail id .loading
  | view => view

/-- Whether an answer is waited for. -/
def isLoading : View → Bool
  | overview records => records.isLoading
  | detail _ record => record.isLoading
  | _ => false

/-- The failure of the view's read. -/
def error? : View → Option ReadError
  | overview records => records.error?
  | detail _ record => record.error?
  | _ => none

/-- The data of the view as JSON, null as long as there are none. -/
def data : View → Json
  | overview (.loaded records) => .array (records.map (·.value))
  | detail _ (.loaded record) => record.value
  | _ => .null

/-- What is noted about an outcome that fills a view. -/
def failureNotice (view : View) (error : ReadError) : List Notice :=
  match view with
  | overview _ => [.listFailed error]
  | detail id _ => [.recordFailed id error]
  | _ => []

/-- The view after an answer to its own read. -/
def finish (view : View) (answer : Answer) : View :=
  match view, answer with
  | overview _, .list outcome => overview (.ofOutcome outcome)
  | detail id _, .one outcome => detail id (.ofOutcome outcome)
  | view, _ => view

/-- The view after its read, if it has one, was made by asking. -/
def loadWith {m : Type → Type} [Monad m] (ask : Endpoint → m Answer) (view : View) : m View :=
  match view.endpoint? with
  | some endpoint => return view.loading.finish (← ask endpoint)
  | none => return view

/-- The view after its read, if it has one, was made at a source. -/
def load (source : Source) (view : View) : View := Id.run (view.loadWith (pure ∘ source.answer))

/-- The failure of the view's read, or else the data. -/
def result (view : View) : Outcome Json :=
  match view.error? with
  | some error => .error error
  | none => .ok view.data

end View

/-- The path that opens the detail page of a record, if the record has an id. -/
def Record.path? (record : Record) : Option String :=
  record.id?.map fun id => "module/" ++ Percent.encode id

/-- The data behind a path, read once by asking, or the failure of that read. -/
def loadPathWith {m : Type → Type} [Monad m] (ask : Endpoint → m Answer) (path : String) :
    m (Outcome Json) :=
  return (← (View.activate (Route.resolve path)).loadWith ask).result

/-- The data behind a path, read once at a source, or the failure of that read. -/
def loadPath (source : Source) (path : String) : Outcome Json :=
  Id.run (loadPathWith (pure ∘ source.answer) path)

end HomeConsole
