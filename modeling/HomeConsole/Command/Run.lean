import HomeConsole.Backend.Http
import HomeConsole.Command.Arguments
import HomeConsole.Settings.EnvironmentFile
import HomeConsole.Settings.Home
import HomeConsole.View

/-!
# Running the program

From the arguments and the surroundings of the program to what it does: complain, print help, print
the data behind a path once, or open the console. A settings file that is of no use makes a warning
and counts as empty.
-/

namespace HomeConsole

/-- What the program finds where it is started. -/
structure Surroundings where
  environment : Environment
  /-- The file of variables in the working folder. -/
  environmentFile : Option String
  home : Home

/-- How the program ends. -/
structure Report where
  exit : Nat
  output : String
  errors : String
deriving DecidableEq

namespace Report

/-- The end with a complaint. -/
def complaint (error : ReadError) : Report := ⟨1, "", "domos: " ++ error.message ++ "\n"⟩

/-- The end of a dump. -/
def dump : Outcome Json → Report
  | .ok data => ⟨0, data.pretty ++ "\n", ""⟩
  | .error error => complaint error

/-- A report with something said before its errors. -/
def after (warning : String) (report : Report) : Report :=
  { report with errors := warning ++ report.errors }

end Report

/-- What the program sets out to do. -/
inductive Aim where
  /-- The address of the backend is of no use. -/
  | refuse (error : ReadError)
  /-- Print the data behind a path. -/
  | dump (address : Address) (path : String)
  /-- Open the console at a path. -/
  | console (address : Address) (path : String)

/-- The program after it has looked around. -/
structure Plan where
  /-- The home directory, perhaps with a fresh settings file. -/
  home : Home
  settings : Settings
  warning : String
  aim : Aim

/-- What the program does about its arguments. -/
inductive Start where
  | stop (report : Report)
  | go (plan : Plan)

namespace Plan

/-- The warning about a settings file that is of no use. -/
def warningOf : Except SettingsError FileSettings → String
  | .ok _ => ""
  | .error error => "warning: " ++ error.message ++ ", using defaults\n"

/-- What there is to do, from the settings in force. -/
def aimOf (settings : Settings) (arguments : Arguments) : Aim :=
  match Address.parse settings.baseUrl with
  | .error error => .refuse error
  | .ok address =>
    match arguments.dump with
    | some path => .dump address path
    | none => .console address settings.startPath

/-- Looks around. -/
def make (arguments : Arguments) (surroundings : Surroundings) : Plan :=
  let environment := match surroundings.environmentFile with
    | some text => EnvironmentFile.load surroundings.environment text
    | none => surroundings.environment
  let (home, found) := surroundings.home.load
  let file : FileSettings := match found with
    | .ok file => file
    | .error _ => {}
  let settings := Settings.resolve file ⟨arguments.baseUrl, arguments.path⟩ environment
  ⟨home, settings, warningOf found, aimOf settings arguments⟩

/-- The read that a dump makes. -/
def dumpEndpoint? (path : String) : Option Endpoint := (View.activate (Route.resolve path)).endpoint?

/-- The lines that the program sends before it ends; the console sends its own. -/
def requests (plan : Plan) : List String :=
  match plan.aim with
  | .dump address path => ((dumpEndpoint? path).bind address.endpointLine).toList
  | _ => []

/-- How the program ends when this comes back for its request; the console ends on its own. -/
def report? (plan : Plan) (back : Exchange) : Option Report :=
  match plan.aim with
  | .refuse error => some ((Report.complaint error).after plan.warning)
  | .dump address path =>
    some ((Report.dump (loadPath (address.source back) path)).after plan.warning)
  | .console _ _ => none

/-- The name under which a path makes a file in an empty folder, if it makes one there. -/
def fileName? (path : String) : Option String :=
  let pieces := (splitWhere (· == '/') path.toList).map String.ofList
  match pieces.reverse with
  | name :: folders =>
    if path.startsWith "/" || ["", ".", ".."].contains name || name.contains '\x00' ||
        name.utf8ByteSize > 255 || !folders.all fun folder => ["", "."].contains folder then none
    else some name
  | [] => none

end Plan

/-- What the program does about its arguments. -/
def start (arguments : List String) (surroundings : Surroundings) : Start :=
  match Arguments.parse arguments with
  | .error fault => .stop ⟨2, "", fault.message⟩
  | .ok .help => .stop ⟨0, Arguments.help, ""⟩
  | .ok (.run arguments) => .go (.make arguments surroundings)

end HomeConsole
