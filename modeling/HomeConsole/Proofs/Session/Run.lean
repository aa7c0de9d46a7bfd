import HomeConsole.Presentation.Draw
import HomeConsole.Proofs.Console.Step
import HomeConsole.Session

/-!
# Runs of a session

A session is opened at a path, and then keys come in, reads end, waiting answers are taken in, one
or all of them, and the screen is drawn, in any order. What an action does to the reads is said
once: it starts an activation, and with it gives up the read that is held, or it leaves the reads
alone.
-/

namespace HomeConsole

namespace Presentation

variable {presentation next : Presentation} {view : View} {action : Action}

theorem pressPrompt_addressee? {prompt : Prompt} {key : Key}
    (h : presentation.pressPrompt prompt key = (next, some action)) :
    action.addressee? = none := by
  unfold pressPrompt at h
  split at h <;> cases h
  rfl

theorem pressPage_addressee? {key : Key}
    (h : presentation.pressPage view key = (next, some action)) : action.addressee? = none := by
  unfold pressPage at h
  split at h
  · simp only [Prod.mk.injEq, Option.bind_eq_some_iff, Option.map_eq_some_iff] at h
    obtain ⟨_, row, _, record, _, rfl⟩ := h
    rfl
  · simp only [Prod.mk.injEq] at h
    obtain ⟨_, h⟩ := h
    split at h <;> cases h
    rfl
  · cases h

theorem globalAction?_addressee? {key : Key} (h : globalAction? key = some action) :
    action.addressee? = none := by
  unfold globalAction? at h
  split at h <;> cases h <;> rfl

/-- No key hands an answer over. -/
theorem press_addressee? {key : Key} (h : presentation.press view key = (next, some action)) :
    action.addressee? = none := by
  unfold press at h
  split at h
  · cases h
    rfl
  · cases h
  · split at h
    · exact pressPrompt_addressee? h
    · split at h
      · cases h
      · split at h
        · rename_i hg
          cases h
          exact globalAction?_addressee? hg
        · exact pressPage_addressee? h

/-- A key that means the same on every page makes its action where no prompt is open. -/
theorem press_global {key : Key} (hprompt : presentation.prompt = none)
    (hkey : globalAction? key = some action) (view : View) :
    presentation.press view key = (presentation, some action) := by
  unfold globalAction? at hkey
  split at hkey <;> cases hkey <;> simp [press, hprompt, globalAction?]

end Presentation

namespace Session

/-- Something that happens to a session. -/
inductive Happening where
  | press (key : Key)
  /-- The read at a place ends with the answer of a source. -/
  | complete (place : Nat) (source : Source)
  /-- The answer that has waited longest is taken in. -/
  | take
  /-- All the answers that wait are taken in. -/
  | drain
  | draw (width height turn : Nat)

/-- Takes in the answer that has waited longest. -/
def takeFirst (session : Session) : Session :=
  match session.waiting with
  | action :: rest => ({ session with waiting := rest }.dispatch action).1
  | [] => session

/-- One happening. -/
def happen (session : Session) : Happening → Session
  | .press key => (session.press key).session
  | .complete place source => session.complete source place
  | .take => session.takeFirst
  | .drain => session.drain
  | .draw width height turn =>
    let drawing := session.presentation.draw session.console width height turn
    { session with presentation := drawing.presentation }

/-- The session that was opened at a path, after what happened since. -/
def after (path : String) (run : List Happening) : Session := run.foldl happen (launch path)

theorem after_concat (path : String) (run : List Happening) (happening : Happening) :
    after path (run ++ [happening]) = (after path run).happen happening := by
  simp [after]

/-! ## What an action does -/

/-- The session once the console has gone on to an activation: the read that was held is given up,
and the read of the view, if it has one, is held in its place. -/
def advance (session : Session) (arrived : Console) : Session :=
  let released := { session with console := arrived.begin.console }.release
  match arrived.view.endpoint? with
  | some endpoint => released.start ⟨arrived.activation + 1, endpoint⟩
  | none => released

theorem dispatch_begin {session : Session} {action : Action} {arrived : Console}
    (hn : arrived.activation = session.console.activation)
    (hc : (session.console.update action).console = arrived.begin.console)
    (he : (session.console.update action).effect = arrived.begin.effect) :
    (session.dispatch action).1 = session.advance arrived := by
  have hne : arrived.activation + 1 ≠ session.console.activation := by
    rw [hn]
    simp
  simp only [dispatch, hc, he, Console.begin_activation, if_neg hne, Console.begin_effect]
  unfold advance
  cases arrived.view.endpoint? <;> rfl

/-- An action starts an activation, or hands an answer over, or changes the status at most. -/
theorem dispatch_cases (session : Session) (action : Action) :
    (∃ arrived : Console, arrived.activation = session.console.activation ∧
        (session.dispatch action).1 = session.advance arrived) ∨
      (∃ activation answer, action = Answer.toAction activation answer) ∨
      (action.addressee? = none ∧ ∃ status,
        (session.dispatch action).1 =
          { session with console := { session.console with status } }) := by
  rcases Console.update_cases session.console action with
    ⟨_, arrived, hn, _, hc, he⟩ | ⟨_, activation, answer, hd⟩ | ⟨_, ha, status, hc, he⟩
  · exact Or.inl ⟨arrived, hn, dispatch_begin hn hc he⟩
  · exact Or.inr (Or.inl ⟨activation, answer, hd⟩)
  · refine Or.inr (Or.inr ⟨ha, status, ?_⟩)
    simp only [dispatch, hc, if_pos]
    cases hf : (session.console.update action).effect with
    | fetch request => exact absurd hf (he request)
    | none => rfl
    | quit => rfl

theorem dispatch_navigate (session : Session) (path : String) :
    (session.dispatch (.navigate path)).1 = session.advance (session.console.arrive path) :=
  dispatch_begin (Console.arrive_activation ..) (Console.update_navigate ..).1
    (Console.update_navigate ..).2

theorem dispatch_openRecord (session : Session) {record : Record} {id : String}
    (h : record.id? = some id) :
    (session.dispatch (.openRecord record)).1 =
      session.advance (session.console.arrive ("module/" ++ Percent.encode id)) :=
  dispatch_begin (Console.arrive_activation ..) (Console.update_openRecord h).1
    (Console.update_openRecord h).2

theorem press_reload {session : Session} (h : session.presentation.prompt = none) :
    (session.press (.char 'r')).session = (session.advance session.console).follow := by
  have hd : (session.dispatch .reload).1 = session.advance session.console :=
    dispatch_begin rfl rfl rfl
  have hp : session.presentation.press session.console.view (.char 'r') =
      (session.presentation, some .reload) := Presentation.press_global h rfl _
  simp only [press, hp]
  rw [← hd]

theorem dispatch_toAction (session : Session) (activation : UInt64) (answer : Answer) :
    (session.dispatch (answer.toAction activation)).1 =
      { session with console := (session.console.deliver activation answer).console } := by
  simp [dispatch, Console.update_toAction]

@[simp] theorem release_console (session : Session) :
    session.release.console = session.console := by
  unfold release
  split <;> rfl

@[simp] theorem release_presentation (session : Session) :
    session.release.presentation = session.presentation := by
  unfold release
  split <;> rfl

/-- Taking an action in changes the console just as the action does, and leaves the presentation
alone. -/
theorem dispatch_eq (session : Session) (action : Action) :
    (session.dispatch action).1.console = (session.console.update action).console ∧
      (session.dispatch action).1.presentation = session.presentation := by
  simp only [dispatch]
  split <;> split <;> simp [start]

/-- Taking an action in neither looks at the waiting answers nor changes them. -/
theorem dispatch_waiting (session : Session) (action : Action) (waiting : List Action) :
    ({ session with waiting }.dispatch action).1 =
      { (session.dispatch action).1 with waiting } := by
  simp only [dispatch]
  split <;> split <;> simp only [start, release] <;> (try split) <;> rfl

theorem waiting_dispatch (session : Session) (action : Action) :
    (session.dispatch action).1.waiting = session.waiting := by
  have h := congrArg Session.waiting (dispatch_waiting session action session.waiting)
  exact h

end Session

end HomeConsole
