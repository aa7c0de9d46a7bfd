import HomeConsole.Presentation.Basic

/-!
# Sessions

A running console: its state, its presentation, the reads that were started, and the answers that
wait to be taken in. A read is given up as soon as its activation is over; an answer that was given
before waits on, and is dropped as stale when its turn comes.
-/

namespace HomeConsole

/-- How a read that was started stands. -/
inductive ReadState where
  | running
  | aborted
  | finished
deriving DecidableEq

/-- A read that was started. -/
structure Read where
  request : Request
  state : ReadState
deriving DecidableEq

/-- A running read is given up; another one stays. -/
def Read.abort (read : Read) : Read :=
  match read.state with
  | .running => { read with state := .aborted }
  | _ => read

/-- A running console. -/
structure Session where
  console : Console
  presentation : Presentation
  /-- The reads that were started, in order. -/
  reads : Array Read
  /-- The read that is given up when the activation ends, by its place. -/
  held : Option Nat
  /-- The answers that wait, in order. -/
  waiting : List Action

namespace Session

/-- A console whose login is settled and which has gone nowhere yet. -/
def new : Session where
  console := { Console.new with login := Console.new.login.settle }
  presentation := .new
  reads := #[]
  held := none
  waiting := []

/-- Gives up the read that is held. -/
def release (session : Session) : Session :=
  match session.held with
  | some place => { session with reads := session.reads.modify place Read.abort, held := none }
  | none => session

/-- Starts a read and holds it. -/
def start (session : Session) (request : Request) : Session :=
  { session with
    reads := session.reads.push ⟨request, .running⟩
    held := some session.reads.size }

/-- Takes an action in, and says whether the console is to end. -/
def dispatch (session : Session) (action : Action) : Session × Bool :=
  let activation := session.console.activation
  let next := session.console.update action
  let session := { session with console := next.console }
  let session := if next.console.activation = activation then session else session.release
  match next.effect with
  | .fetch request => (session.start request, false)
  | .quit => (session, true)
  | .none => (session, false)

/-- Lets the presentation follow the console. -/
def follow (session : Session) : Session :=
  { session with presentation := session.presentation.follow session.console.path }

/-- What a key does. -/
structure Pressed where
  session : Session
  action : Option Action
  quits : Bool

/-- Takes a key in. -/
def press (session : Session) (key : Key) : Pressed :=
  let (presentation, action) := session.presentation.press session.console.view key
  let session := { session with presentation }
  match action with
  | some act =>
    let (session, quits) := session.dispatch act
    ⟨session.follow, action, quits⟩
  | none => ⟨session, none, false⟩

/-- Takes keys in that arrived together. The console ends after them if any of them ends it. -/
def pressAll (session : Session) (keys : List Key) : Session × Bool :=
  keys.foldl (fun (session, quits) key =>
    let pressed := session.press key
    (pressed.session, quits || pressed.quits)) (session, false)

/-- A new session at a path. -/
def launch (path : String) : Session := (new.dispatch (.navigate path)).1.follow

/-- The reads that are under way. -/
def running (session : Session) : List Read :=
  session.reads.toList.filter (·.state = .running)

/-- A read that is under way ends, and its answer waits. -/
def finish (session : Session) (place : Nat) (answer : Answer) : Session :=
  match session.reads[place]? with
  | some ⟨request, .running⟩ =>
    { session with
      reads := session.reads.modify place fun read => { read with state := .finished }
      waiting := session.waiting ++ [answer.toAction request.activation] }
  | _ => session

/-- A read that is under way ends with the answer of a source. -/
def complete (session : Session) (source : Source) (place : Nat) : Session :=
  match session.reads[place]? with
  | some read => session.finish place (source.answer read.request.endpoint)
  | none => session

/-- All reads that are under way end with the answers of a source. -/
def finishAll (session : Session) (source : Source) : Session :=
  (List.range session.reads.size).foldl (complete · source) session

/-- Takes in the answers that wait. -/
def drain (session : Session) : Session :=
  session.waiting.foldl (fun session action => (session.dispatch action).1)
    { session with waiting := [] }

/-- What is noted of the reads that end after nobody waits for answers any more. -/
def hangUp (session : Session) : List Notice :=
  session.running.map fun read => .undelivered read.request.activation

end Session

end HomeConsole
