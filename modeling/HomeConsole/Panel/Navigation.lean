import HomeConsole.Console.Basic
import HomeConsole.Screen.Line

/-!
# The navigation bar

The line at the top: the main pages with the current one marked, the path, the login, a spinner
while data are on their way, and the status.
-/

namespace HomeConsole

/-- What the navigation bar shows. -/
structure Navigation where
  page : Page
  path : String
  login : Login
  status : String
  /-- The turn of the spinner, while something is loading. -/
  spinner : Option Nat := none

namespace Navigation

/-- The turns of the spinner. -/
def spinnerSigns : List String := ["⠋", "⠙", "⠹", "⠸", "⠼", "⠴", "⠦", "⠧", "⠇", "⠏"]

/-- The sign of a turn. -/
def spinnerSign (turn : Nat) : String :=
  spinnerSigns.getD (turn % spinnerSigns.length) ""

/-- The main pages by name, each with the pages that belong to it. -/
def tabs : List (String × List Page) :=
  [("Home", [.home]), ("Modules", [.overview, .detail]), ("Dashi", [.dashboard])]

/-- What stands between two parts of the bar. -/
def separator : Span := ⟨" │ ", .colored .darkGray⟩

/-- The name of a main page. -/
def tab (page : Page) (entry : String × List Page) : Span :=
  ⟨entry.1,
    if entry.2.contains page then
      { foreground := some .cyan, bold := true, underlined := true }
    else .colored .gray⟩

/-- The label of the login. -/
def loginSpan (login : Login) : Span :=
  ⟨login.label, .colored (if login = .loggedIn then .green else .darkGray)⟩

/-- The bar. -/
def line (bar : Navigation) : Line :=
  let brand : Span := ⟨" Domos", { foreground := some .yellow, bold := true }⟩
  let spinner : Line := match bar.spinner with
    | some turn => [separator, ⟨spinnerSign turn, .colored .yellow⟩]
    | none => []
  let status : Line := if bar.status.isEmpty then [] else [separator, ⟨bar.status, .plain⟩]
  [brand, separator] ++ (tabs.map (tab bar.page)).intersperse ⟨"  ", .plain⟩ ++
    [separator, ⟨bar.path, .colored .white⟩, separator, loginSpan bar.login] ++ spinner ++ status

end Navigation

end HomeConsole
