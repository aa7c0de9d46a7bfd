import HomeConsole.Proofs.Console.Step

/-!
# The data behind a path, with and without a console

The data behind a path can be asked for without a console. A console that goes to the path, makes
the read that comes of it, and takes the answer in, ends with the same data or the same failure, and
has made the same reads, whatever it did before. This holds for every way of asking, so that a way
that notes down what it was asked shows which reads are made.
-/

namespace HomeConsole

namespace Console

variable {m : Type → Type} [Monad m]

/-- Goes to a path, and takes in the answer to the read that comes of it, if one does. -/
def visitWith (ask : Endpoint → m Answer) (console : Console) (path : String) : m Console :=
  let next := console.update (.navigate path)
  match next.effect with
  | .fetch request => return (next.console.update (← request.performWith ask)).console
  | _ => return next.console

/-- Goes to a path, with a source that answers the read that comes of it. -/
def visit (source : Source) (console : Console) (path : String) : Console :=
  Id.run (console.visitWith (pure ∘ source.answer) path)

/-- The answer that is taken in is one of the current activation, so it is never dropped. -/
theorem visitWith_eq [LawfulMonad m] (ask : Endpoint → m Answer) (console : Console)
    (path : String) :
    console.visitWith ask path =
      match (View.activate (Route.resolve path)).endpoint? with
      | some endpoint => do
        let answer ← ask endpoint
        return ((console.arrive path).begin.console.receive answer).console
      | none => pure (console.arrive path).begin.console := by
  obtain ⟨hc, he⟩ := console.update_navigate path
  have hview : (console.arrive path).view = View.activate (Route.resolve path) := by
    simp only [arrive]
  rw [begin_effect, hview] at he
  unfold visitWith
  simp only [he, hc]
  cases (View.activate (Route.resolve path)).endpoint? with
  | none => rfl
  | some endpoint =>
      simp only [Request.performWith, bind_assoc, pure_bind, update_toAction]
      rw [← begin_activation]
      simp only [deliver_current]

/-- The view that is arrived at is loaded just as it would be without a console. -/
theorem view_visitWith [LawfulMonad m] (ask : Endpoint → m Answer) (console : Console)
    (path : String) :
    Console.view <$> console.visitWith ask path =
      (View.activate (Route.resolve path)).loadWith ask := by
  have hview : (console.arrive path).view = View.activate (Route.resolve path) := by
    simp only [arrive]
  rw [visitWith_eq]
  unfold View.loadWith
  cases he : (View.activate (Route.resolve path)).endpoint? with
  | none => simp [hview, View.loading_of_endpoint?_eq_none he]
  | some endpoint => simp [hview]

theorem result_visitWith [LawfulMonad m] (ask : Endpoint → m Answer) (console : Console)
    (path : String) :
    (fun console => console.view.result) <$> console.visitWith ask path =
      loadPathWith ask path := by
  have h := congrArg (View.result <$> ·) (console.view_visitWith ask path)
  simpa [loadPathWith] using h

end Console

/-! ## The reads that are made -/

/-- Answers as a source does, and notes down what it was asked. -/
def Source.noting (source : Source) (endpoint : Endpoint) : StateM (List Endpoint) Answer := do
  modify (· ++ [endpoint])
  return source.answer endpoint

/-- What comes of asking a source, with the reads that were made, in order. -/
def Source.trace {α : Type} (source : Source)
    (program : (Endpoint → StateM (List Endpoint) Answer) → StateM (List Endpoint) α) :
    α × List Endpoint :=
  Id.run ((program source.noting).run [])

/-- The reads that the page behind a path takes. -/
def Route.reads (path : String) : List Endpoint :=
  (View.activate (Route.resolve path)).endpoint?.toList

theorem Source.trace_loadPath (source : Source) (path : String) :
    source.trace (loadPathWith · path) = (loadPath source path, Route.reads path) := by
  unfold Source.trace loadPath loadPathWith View.loadWith Route.reads
  generalize View.activate (Route.resolve path) = view
  cases view.endpoint? with
  | none => rfl
  | some endpoint => rfl

theorem Source.trace_visit (source : Source) (console : Console) (path : String) :
    source.trace (console.visitWith · path) = (console.visit source path, Route.reads path) := by
  unfold Source.trace Console.visit Route.reads
  simp only [Console.visitWith_eq]
  generalize (console.arrive path).begin.console = arrived
  cases (View.activate (Route.resolve path)).endpoint? with
  | none => rfl
  | some endpoint => rfl

theorem Route.reads_eq_nil {path : String} : Route.reads path = [] ↔
    (Route.resolve path).route.page = .home ∨ (Route.resolve path).route.page = .dashboard := by
  unfold Route.reads
  rw [Option.toList_eq_nil_iff]
  exact View.endpoint?_activate_eq_none

theorem Console.view_visit (source : Source) (console : Console) (path : String) :
    (console.visit source path).view = (View.activate (Route.resolve path)).load source := by
  rw [Console.visit, View.load, ← Console.view_visitWith _ console path, Id.run_map]

theorem loadPath_eq_result (source : Source) (console : Console) (path : String) :
    loadPath source path = (console.visit source path).view.result := by
  rw [loadPath, ← Console.result_visitWith _ console path, Id.run_map, Console.visit]

/-- The data behind a path, or the failure to read them, are what a console shows that goes there
from wherever it was, and both make the same reads. -/
theorem visit_shows_loadPath (source : Source) (console : Console) (path : String) :
    (∀ error, loadPath source path = .error error ↔
        (console.visit source path).view.error? = some error) ∧
      (∀ data, loadPath source path = .ok data ↔
        (console.visit source path).view.error? = none ∧
          data = (console.visit source path).view.data) ∧
      (∀ other : Console,
        (other.visit source path).view = (console.visit source path).view) ∧
      source.trace (loadPathWith · path) = (loadPath source path, Route.reads path) ∧
      source.trace (console.visitWith · path) = (console.visit source path, Route.reads path) ∧
      (Route.reads path).length ≤ 1 ∧
      (Route.reads path = [] ↔ (Route.resolve path).route.page = .home ∨
        (Route.resolve path).route.page = .dashboard) := by
  rw [loadPath_eq_result source console path]
  refine ⟨fun _ => View.result_eq_error, fun _ => View.result_eq_ok, ?_, ?_,
    source.trace_visit console path, ?_, Route.reads_eq_nil⟩
  · intro other
    rw [Console.view_visit, Console.view_visit]
  · rw [← loadPath_eq_result]
    exact source.trace_loadPath path
  · unfold Route.reads
    cases (View.activate (Route.resolve path)).endpoint? <;> simp

end HomeConsole
