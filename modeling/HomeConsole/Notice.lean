import HomeConsole.Backend.Endpoint
import HomeConsole.Backend.Error
import HomeConsole.Route

/-!
# Notices

The events that the console writes to its log, as data, with the level and the wording of each.
-/

namespace HomeConsole

/-- How much a notice matters. -/
inductive Level where
  | debug
  | info
  | warn
  | error
deriving Repr, DecidableEq

/-- The name of a level in the log. -/
def Level.label : Level → String
  | debug => "DEBUG"
  | info => "INFO"
  | warn => "WARN"
  | error => "ERROR"

/-- An event worth a line in the log. -/
inductive Notice where
  | noId
  | opening (id : String)
  | redirecting (source target : String)
  | navigating (path : String) (page : Page)
  | fetching (activation : UInt64) (endpoint : Endpoint)
  | stale (activation current : UInt64)
  | listFailed (error : ReadError)
  | recordFailed (id : String) (error : ReadError)
  | loggedOut
  | undelivered (activation : UInt64)
deriving Repr, DecidableEq

namespace Notice

/-- The level of a notice. -/
def level : Notice → Level
  | noId | redirecting _ _ | navigating _ _ => .info
  | opening _ | fetching _ _ | stale _ _ | loggedOut => .debug
  | listFailed _ | recordFailed _ _ | undelivered _ => .warn

/-- The wording of a notice. -/
def message : Notice → String
  | noId => "Ignoring openmodule for a record without id"
  | opening id => "Opening module " ++ id
  | redirecting source target => "No route for " ++ source ++ ", redirecting to " ++ target
  | navigating path page =>
    "Navigating to " ++ path ++ " (" ++ page.template ++ " / " ++ page.controller ++ ")"
  | fetching activation endpoint =>
    "Activation " ++ toString activation.toNat ++ " fetches " ++ endpoint.path
  | stale activation current =>
    "Dropping stale result for activation " ++ toString activation.toNat ++
      " (current " ++ toString current.toNat ++ ")"
  | listFailed error => "Loading modules failed: " ++ error.message
  | recordFailed id error => "Loading module " ++ id ++ " failed: " ++ error.message
  | loggedOut => "Login state defaulted to logged out"
  | undelivered activation =>
    "Failed to deliver fetch result for activation " ++ toString activation.toNat ++
      ": receiver dropped"

/-- A notice as a line of the log. -/
def line (notice : Notice) : String := notice.level.label ++ " " ++ notice.message

end Notice

end HomeConsole
