import HomeConsole.Text.Blank
import HomeConsole.Text.Percent

/-!
# Routes

A path in the console, typed, linked or given at the start, is brought into one canonical form
and looked up in an ordered table of patterns. The first pattern that fits wins; a path that fits
none leads to the root page, with a note of where it came from, so that resolution is total.
-/

namespace HomeConsole

/-- The pages of the console. -/
inductive Page where
  | home
  | overview
  | dashboard
  | detail
deriving Repr, DecidableEq, Inhabited

namespace Page

/-- The name of the template that draws the page. -/
def template : Page → String
  | home => "homepage"
  | overview => "modules"
  | dashboard => "dashi"
  | detail => "module"

/-- The name of the controller behind the page. -/
def controller : Page → String
  | home => "HomeController"
  | overview => "ModulesController"
  | dashboard => "DashiController"
  | detail => "ModuleController"

end Page

/-- The values that a pattern took from a path, by name. -/
abbrev Params := List (String × String)

namespace Params

/-- Binds a name; an earlier binding of it is given up. -/
def bind (params : Params) (name value : String) : Params :=
  (name, value) :: params.filter (·.1 != name)

/-- The value bound to a name. -/
def get? (params : Params) (name : String) : Option String :=
  (params.find? (·.1 == name)).map (·.2)

end Params

/-- A pattern and the page it leads to. -/
structure Route where
  pattern : String
  page : Page
deriving Repr, DecidableEq, Inhabited

namespace Route

/-- The pieces of a path between its slashes. -/
def segments (path : String) : List String :=
  (splitWhere (· == '/') path.toList).map String.ofList

/-- Fits pattern segments to path segments one by one. A segment `:name` takes any segment that is
not empty, with its escapes undone; every other one fits only itself. -/
def matchSegments (params : Params) : List String → List String → Option Params
  | [], [] => some params
  | expected :: pattern, segment :: path =>
    match expected.toList with
    | ':' :: name =>
      if segment.isEmpty then none
      else matchSegments (params.bind (String.ofList name) (Percent.decode segment)) pattern path
    | _ => if expected = segment then matchSegments params pattern path else none
  | _, _ => none

/-- The values that the route's pattern takes from a path, if it fits. -/
def matchPath? (route : Route) (path : String) : Option Params :=
  matchSegments [] (segments route.pattern) (segments path)

/-- The route for the root page, to which unknown paths lead. -/
def root : Route := ⟨"/", .home⟩

/-- The routes of the console, in order. -/
def table : List Route :=
  [root, ⟨"/modules", .overview⟩, ⟨"/dashi", .dashboard⟩, ⟨"/module/:id", .detail⟩]

/-- The part of a path before a query or a fragment. -/
def withoutQuery (cs : List Char) : List Char := cs.takeWhile fun c => c != '?' && c != '#'

/-- A text without one leading `#`. -/
def dropHash : List Char → List Char
  | '#' :: cs => cs
  | cs => cs

/-- A text that begins with a slash. -/
def withSlash : List Char → List Char
  | '/' :: cs => '/' :: cs
  | cs => '/' :: cs

/-- A text without one slash at its end, unless it is that slash alone. -/
def dropLastSlash (cs : List Char) : List Char :=
  if cs.length > 1 ∧ cs.getLast? = some '/' then cs.dropLast else cs

/-- The canonical form of a path: no blanks at the ends, no leading `#`, no query and no fragment,
a slash in front and none behind. -/
def normalize (path : String) : String :=
  String.ofList (dropLastSlash (withSlash (withoutQuery (dropHash (trim path.toList)))))

end Route

/-- Where a path leads. -/
structure Resolution where
  route : Route
  /-- The canonical path of that route. -/
  path : String
  params : Params
  /-- The canonical form of a path that had no route of its own. -/
  redirectedFrom : Option String
deriving Repr, DecidableEq

namespace Route

/-- The first route of a table that fits a canonical path, with the values it takes. -/
def first? (routes : List Route) (path : String) : Option (Route × Params) :=
  routes.findSome? fun route => (route.matchPath? path).map (route, ·)

/-- Where a path leads. -/
def resolve (path : String) : Resolution :=
  let canonical := normalize path
  match first? table canonical with
  | some (route, params) => ⟨route, canonical, params, none⟩
  | none => ⟨root, root.pattern, [], some canonical⟩

end Route

end HomeConsole
