import HomeConsole.Console.Update
import HomeConsole.Proofs.View

/-!
# What one step of the console can do

There are three kinds of steps. Some begin an activation: they start the read of the view that was
reached. Some hand an answer over: it is taken in when its activation is the current one. The rest
change the status at most. `update_cases` says this once; what a run keeps is derived from it.
-/

namespace HomeConsole

namespace Action

/-- Whether an action begins an activation. -/
def activates : Action → Bool
  | navigate _ | reload => true
  | openRecord record => record.id?.isSome
  | _ => false

/-- The activation to which an action hands an answer over, if it does. -/
def addressee? : Action → Option UInt64
  | listLoaded activation _ | recordLoaded activation _ => some activation
  | _ => none

end Action

@[simp] theorem Answer.addressee?_toAction (answer : Answer) (activation : UInt64) :
    (answer.toAction activation).addressee? = some activation := by
  cases answer <;> rfl

theorem Answer.toAction_inj {activation current : UInt64} {answer other : Answer}
    (h : answer.toAction activation = other.toAction current) :
    activation = current ∧ answer = other := by
  cases answer <;> cases other <;> cases h <;> exact ⟨rfl, rfl⟩

@[simp] theorem Request.perform_eq (request : Request) (source : Source) :
    request.perform source = (source.answer request.endpoint).toAction request.activation :=
  rfl

namespace Console

variable {console : Console}

/-! ## Beginning an activation -/

theorem begin_console (console : Console) :
    console.begin.console =
      { console with activation := console.activation + 1, view := console.view.loading } := by
  unfold begin
  split
  · rfl
  · rename_i h
    rw [View.loading_of_endpoint?_eq_none h]

@[simp] theorem begin_activation (console : Console) :
    console.begin.console.activation = console.activation + 1 := by
  rw [begin_console]

@[simp] theorem begin_view (console : Console) :
    console.begin.console.view = console.view.loading := by
  rw [begin_console]

@[simp] theorem begin_path (console : Console) : console.begin.console.path = console.path := by
  rw [begin_console]

@[simp] theorem begin_page (console : Console) : console.begin.console.page = console.page := by
  rw [begin_console]

/-- The read that is asked for is that of the view, under the activation that begins. -/
theorem begin_effect (console : Console) :
    console.begin.effect =
      match console.view.endpoint? with
      | some endpoint => .fetch ⟨console.activation + 1, endpoint⟩
      | none => .none := by
  unfold begin
  split <;> simp [*]

theorem begin_effect_eq_fetch {request : Request} :
    console.begin.effect = .fetch request ↔
      request.activation = console.begin.console.activation ∧
        console.begin.console.view.endpoint? = some request.endpoint := by
  rw [begin_effect, begin_activation, begin_view, View.endpoint?_loading]
  cases console.view.endpoint? with
  | none => simp
  | some endpoint =>
      constructor
      · intro h
        cases h
        exact ⟨rfl, rfl⟩
      · rintro ⟨ha, he⟩
        cases request
        cases ha
        cases he
        rfl

/-! ## Taking an answer in -/

@[simp] theorem receive_activation (console : Console) (answer : Answer) :
    (console.receive answer).console.activation = console.activation := by
  unfold receive
  split <;> rfl

@[simp] theorem receive_view (console : Console) (answer : Answer) :
    (console.receive answer).console.view = console.view.finish answer := by
  unfold receive
  cases h : console.view <;> cases answer <;> simp [View.finish, h]

@[simp] theorem receive_path (console : Console) (answer : Answer) :
    (console.receive answer).console.path = console.path := by
  unfold receive
  split <;> rfl

@[simp] theorem receive_page (console : Console) (answer : Answer) :
    (console.receive answer).console.page = console.page := by
  unfold receive
  split <;> rfl

@[simp] theorem receive_effect (console : Console) (answer : Answer) :
    (console.receive answer).effect = .none := by
  unfold receive
  split <;> rfl

theorem deliver_current (console : Console) (answer : Answer) :
    console.deliver console.activation answer = console.receive answer := by
  simp [deliver]

theorem deliver_stale {activation : UInt64} (h : activation ≠ console.activation)
    (answer : Answer) : (console.deliver activation answer).console = console := by
  simp [deliver, h]

@[simp] theorem deliver_activation (console : Console) (activation : UInt64) (answer : Answer) :
    (console.deliver activation answer).console.activation = console.activation := by
  unfold deliver
  split <;> simp

@[simp] theorem deliver_path (console : Console) (activation : UInt64) (answer : Answer) :
    (console.deliver activation answer).console.path = console.path := by
  unfold deliver
  split <;> simp

@[simp] theorem deliver_effect (console : Console) (activation : UInt64) (answer : Answer) :
    (console.deliver activation answer).effect = .none := by
  unfold deliver
  split <;> simp

@[simp] theorem deliver_endpoint? (console : Console) (activation : UInt64) (answer : Answer) :
    (console.deliver activation answer).console.view.endpoint? = console.view.endpoint? := by
  unfold deliver
  split <;> simp

theorem isUnread_deliver (h : console.view.isUnread = false) (activation : UInt64)
    (answer : Answer) : (console.deliver activation answer).console.view.isUnread = false := by
  unfold deliver
  split
  · rw [receive_view]
    exact View.isUnread_finish h answer
  · exact h

/-- A view that still loads was loading before, and the answer was not the one it waits for. -/
theorem isLoading_of_deliver {activation : UInt64} {answer : Answer}
    (h : (console.deliver activation answer).console.view.isLoading = true) :
    console.view.isLoading = true ∧ ∀ endpoint, console.view.endpoint? = some endpoint →
      View.fits answer endpoint = true → activation ≠ console.activation := by
  by_cases hc : activation = console.activation
  · subst hc
    rw [deliver_current, receive_view] at h
    refine ⟨View.isLoading_of_finish h, ?_⟩
    intro endpoint he hf
    rw [(View.finish_of_fits he hf).2] at h
    cases h
  · rw [deliver_stale hc] at h
    exact ⟨h, fun _ _ _ => hc⟩

theorem update_toAction (console : Console) (activation : UInt64) (answer : Answer) :
    console.update (answer.toAction activation) = console.deliver activation answer := by
  cases answer <;> rfl

/-- The console after actions that come one after the other. -/
def takeAll (console : Console) (actions : List Action) : Console :=
  actions.foldl (fun console action => (console.update action).console) console

/-! ## The three kinds of steps -/

/-- The console on its arrival at the page behind a path, before its activation begins. -/
def arrive (console : Console) (path : String) : Console :=
  { console with
    path := (Route.resolve path).path
    page := (Route.resolve path).route.page
    view := View.activate (Route.resolve path)
    status := arrivalStatus (Route.resolve path) }

@[simp] theorem arrive_activation (console : Console) (path : String) :
    (console.arrive path).activation = console.activation := by
  simp only [arrive]

@[simp] theorem arrive_login (console : Console) (path : String) :
    (console.arrive path).login = console.login := by
  simp only [arrive]

theorem update_navigate (console : Console) (path : String) :
    (console.update (.navigate path)).console = (console.arrive path).begin.console ∧
      (console.update (.navigate path)).effect = (console.arrive path).begin.effect := by
  simp only [update, navigate, arrive, and_self]

theorem update_openRecord {record : Record} {id : String} (h : record.id? = some id) :
    (console.update (.openRecord record)).console =
        (console.arrive ("module/" ++ Percent.encode id)).begin.console ∧
      (console.update (.openRecord record)).effect =
        (console.arrive ("module/" ++ Percent.encode id)).begin.effect := by
  simp only [update, Record.path?, h, Option.map_some, navigate, arrive, and_self]

theorem update_openRecord_none {record : Record} (h : record.id? = none) :
    console.update (.openRecord record) =
      ⟨{ console with status := "Module has no id" }, .none, [.noId]⟩ := by
  simp [update, Record.path?, h]

/-- A step begins an activation, or hands an answer over, or changes the status at most. -/
theorem update_cases (console : Console) (action : Action) :
    (action.activates = true ∧ ∃ arrived : Console,
        arrived.activation = console.activation ∧ arrived.login = console.login ∧
          (console.update action).console = arrived.begin.console ∧
          (console.update action).effect = arrived.begin.effect) ∨
      (action.activates = false ∧ ∃ activation answer,
        action = Answer.toAction activation answer) ∨
      (action.activates = false ∧ action.addressee? = none ∧ ∃ status,
        (console.update action).console = { console with status } ∧
          ∀ request, (console.update action).effect ≠ .fetch request) := by
  cases action with
  | navigate path =>
      exact Or.inl ⟨rfl, console.arrive path, arrive_activation .., arrive_login ..,
        update_navigate console path⟩
  | openRecord record =>
      cases h : record.id? with
      | some id =>
          exact Or.inl ⟨by simp [Action.activates, h], console.arrive _, arrive_activation ..,
            arrive_login .., update_openRecord h⟩
      | none =>
          refine Or.inr (Or.inr ⟨by simp [Action.activates, h], rfl, "Module has no id", ?_⟩)
          rw [update_openRecord_none h]
          exact ⟨rfl, by simp⟩
  | reload => exact Or.inl ⟨rfl, console, rfl, rfl, rfl, rfl⟩
  | listLoaded activation outcome =>
      exact Or.inr (Or.inl ⟨rfl, activation, .list outcome, rfl⟩)
  | recordLoaded activation outcome =>
      exact Or.inr (Or.inl ⟨rfl, activation, .one outcome, rfl⟩)
  | quit => exact Or.inr (Or.inr ⟨rfl, rfl, console.status, rfl, by simp [update]⟩)

end Console

end HomeConsole
