/-!
# Failures of a read

Why a read of the backend gave nothing, and how it is worded.
-/

namespace HomeConsole

/-- Why a read failed. -/
inductive ReadError where
  /-- The address of the backend is of no use. -/
  | config (reason : String)
  /-- No complete answer arrived. -/
  | network (reason : String)
  /-- The backend answered with a status that is no success. -/
  | api (status : UInt16) (body : String)
  /-- The answer is not of the shape that was asked for. -/
  | parse (reason : String)
deriving Repr, DecidableEq, Inhabited

/-- The wording of a failure. -/
def ReadError.message : ReadError → String
  | config reason => "config error: " ++ reason
  | network reason => "network error: " ++ reason
  | api status body => "API error (HTTP " ++ toString status.toNat ++ "): " ++ body
  | parse reason => "parse error: " ++ reason

end HomeConsole
