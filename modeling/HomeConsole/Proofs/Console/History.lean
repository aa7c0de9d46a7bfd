import HomeConsole.Proofs.Console.Step

/-!
# Histories of the console

A history begins with the console that has gone nowhere. Users ask for things, the reads that come
of it are made at sources, and what was read is handed over: late, in any order, more than once, or
never. No two reads need to be made at the same source.
-/

namespace HomeConsole

/-- What a user can ask for. -/
inductive Intent where
  | navigate (path : String)
  | openRecord (record : Record)
  | reload
  | quit

/-- The action behind an intent. -/
def Intent.action : Intent → Action
  | navigate path => .navigate path
  | openRecord record => .openRecord record
  | reload => .reload
  | quit => .quit

@[simp] theorem Intent.addressee?_action (intent : Intent) :
    intent.action.addressee? = none := by
  cases intent <;> rfl

/-- The read that an effect asks for. -/
def Effect.request? : Effect → Option Request
  | fetch request => some request
  | _ => Option.none

@[simp] theorem Effect.request?_eq_some {effect : Effect} {request : Request} :
    effect.request? = some request ↔ effect = .fetch request := by
  cases effect <;> simp [Effect.request?]

/-- A read that was made. -/
structure Reading where
  request : Request
  source : Source

/-- What a read gave, as the action that hands it over. -/
def Reading.action (reading : Reading) : Action := reading.request.perform reading.source

/-- A console with the reads that it asked for and those that were made, in order. -/
structure History where
  console : Console
  requests : List Request
  readings : List Reading

namespace History

/-- Something that happens in a history. -/
inductive Event where
  | ask (intent : Intent)
  /-- The read at a place is made. -/
  | read (place : Nat) (source : Source)
  /-- What the read made at a place gave is handed over. -/
  | deliver (place : Nat)

/-- The history in which nothing has happened. -/
def start : History := ⟨Console.new, [], []⟩

/-- An action is taken in. -/
def take (history : History) (action : Action) : History :=
  let next := history.console.update action
  { history with
    console := next.console
    requests := history.requests ++ next.effect.request?.toList }

/-- One event. A place that holds nothing means nothing. -/
def step (history : History) : Event → History
  | .ask intent => history.take intent.action
  | .read place source =>
    match history.requests[place]? with
    | some request => { history with readings := history.readings ++ [⟨request, source⟩] }
    | none => history
  | .deliver place =>
    match history.readings[place]? with
    | some reading => history.take reading.action
    | none => history

/-- The history after a run of events, in whatever order they come. -/
def after (run : List Event) : History := run.foldl step start

/-- Whether an event begins an activation. -/
def Event.activates : Event → Bool
  | ask intent => intent.action.activates
  | _ => false

/-- How many activations a run begins. -/
def activations (run : List Event) : Nat := run.countP Event.activates

/-- At some point of a run the console asked for a read, and an activation was current then. -/
def Issued (run : List Event) (activation : UInt64) (request : Request) : Prop :=
  ∃ before intent later, run = before ++ .ask intent :: later ∧
    ((after before).console.update intent.action).effect = .fetch request ∧
    ((after before).console.update intent.action).console.activation = activation

theorem after_concat (run : List Event) (event : Event) :
    after (run ++ [event]) = (after run).step event := by
  simp [after]

theorem activations_concat (run : List Event) (event : Event) :
    activations (run ++ [event]) = activations run + if event.activates then 1 else 0 := by
  cases h : event.activates <;> simp [activations, h]

theorem Issued.concat {run : List Event} {activation : UInt64} {request : Request}
    (h : Issued run activation request) (event : Event) :
    Issued (run ++ [event]) activation request := by
  obtain ⟨before, intent, later, rfl, he, ha⟩ := h
  exact ⟨before, intent, later ++ [event], by simp, he, ha⟩

/-- An answer that is handed over asks for no read. -/
theorem take_reading (history : History) (reading : Reading) :
    history.take reading.action =
      { history with
        console := (history.console.deliver reading.request.activation
          (reading.source.answer reading.request.endpoint)).console } := by
  simp [take, Reading.action, Console.update_toAction, Effect.request?]

end History

end HomeConsole
