import HomeConsole.Backend.Source
import HomeConsole.Url.Parser

/-!
# The address of the backend

The address is a URL that can carry a path. The segments of a read are added to that path, each of
them escaped, and nothing else of the URL changes.
-/

namespace HomeConsole

/-- The address of a backend. -/
structure Address where
  /-- The address as given, without slashes at its end. -/
  given : String
  url : Url
deriving Repr, DecidableEq

namespace Address

/-- A text without slashes at its end. -/
def withoutSlashes (text : String) : String :=
  String.ofList (text.toList.reverse.dropWhile (· == '/')).reverse

/-- The complaint about an address that is no URL. -/
def unreadable (given : String) (fault : UrlFault) : ReadError :=
  .config ("invalid base URL '" ++ given ++ "': " ++ fault.message)

/-- The complaint about an address that no segment can be added to. -/
def pathless (given : String) : ReadError :=
  .config ("base URL '" ++ given ++ "' cannot carry a path")

/-- Reads an address. -/
def parse (text : String) : Outcome Address :=
  let given := withoutSlashes text
  match Url.parse given with
  | .error fault => .error (unreadable given fault)
  | .ok url =>
    match url.path with
    | .plain _ => .error (pathless given)
    | .segments _ => .ok ⟨given, url⟩

/-- The name of this kind of source. -/
def sourceName : String := "http"

/-- The URL of a read. -/
def endpointUrl (address : Address) (endpoint : Endpoint) : Outcome Url :=
  match address.url.extend endpoint.segments with
  | some url => .ok url
  | none => .error (pathless address.given)

end Address

end HomeConsole
