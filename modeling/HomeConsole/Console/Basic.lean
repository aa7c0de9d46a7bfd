import HomeConsole.View

/-!
# The state of the console

Where the console is, what it shows, and which activation it is in. Every time a page is reached or
its read is repeated a new activation begins; answers that belong to an earlier one are stale.
-/

namespace HomeConsole

/-- Whether someone is logged in. -/
inductive Login where
  /-- Nobody has looked yet. -/
  | undetermined
  | loggedOut
  | loggedIn
deriving Repr, DecidableEq, Inhabited

namespace Login

/-- The label in the navigation bar. -/
def label : Login → String
  | undetermined => "…"
  | loggedOut => "logged out"
  | loggedIn => "logged in"

/-- Settles an undetermined login; one that is determined stays. -/
def settle : Login → Login
  | undetermined => loggedOut
  | login => login

/-- What is noted when a login is settled. -/
def settleNotices : Login → List Notice
  | undetermined => [.loggedOut]
  | _ => []

end Login

/-- The state of the console. -/
structure Console where
  login : Login
  /-- The canonical path of the page. -/
  path : String
  page : Page
  view : View
  activation : UInt64
  status : String
deriving Repr, Inhabited

/-- The console before it has gone anywhere. -/
def Console.new : Console :=
  ⟨.undetermined, "/", .home, .home, 0, "Welcome to Domos!"⟩

/-- Something that happens to the console. -/
inductive Action where
  | navigate (path : String)
  | openRecord (record : Record)
  | reload
  | listLoaded (activation : UInt64) (outcome : Outcome (List Record))
  | recordLoaded (activation : UInt64) (outcome : Outcome Record)
  | quit

/-- A read to be made on behalf of an activation. -/
structure Request where
  activation : UInt64
  endpoint : Endpoint
deriving Repr, DecidableEq

/-- An answer handed back under the activation that asked for it. -/
def Answer.toAction (activation : UInt64) : Answer → Action
  | list outcome => .listLoaded activation outcome
  | one outcome => .recordLoaded activation outcome

/-- Makes the read by asking. -/
def Request.performWith {m : Type → Type} [Monad m] (ask : Endpoint → m Answer)
    (request : Request) : m Action :=
  return (← ask request.endpoint).toAction request.activation

/-- Makes the read at a source. -/
def Request.perform (request : Request) (source : Source) : Action :=
  Id.run (request.performWith (pure ∘ source.answer))

/-- What the console asks of its surroundings after an action. -/
inductive Effect where
  | none
  | fetch (request : Request)
  | quit
deriving Repr, DecidableEq

end HomeConsole
