import HomeConsole.Text.Percent

/-!
# Reads of the backend

The two reads that a page can make, and the path of each below the address of the backend.
-/

namespace HomeConsole

/-- A read of the backend. -/
inductive Endpoint where
  /-- All records. -/
  | list
  /-- The record with an id. -/
  | one (id : String)
deriving Repr, DecidableEq, Inhabited

namespace Endpoint

/-- The path segments of a read, as they are. -/
def segments : Endpoint → List String
  | list => ["api", "getmodules"]
  | one id => ["api", "getmodule", id]

/-- The path of a read, each segment escaped. -/
def path (endpoint : Endpoint) : String :=
  endpoint.segments.foldl (fun path segment => path ++ "/" ++ Percent.encode segment) ""

end Endpoint

end HomeConsole
