import HomeConsole.Command.Run
import HomeConsole.Proofs.Backend.Arrival
import HomeConsole.Proofs.Console.Headless

/-!
# What a dump comes to

A dump prints the data behind a path or complains, and its exit code says which. The address of the
backend comes from the command line, the variables, the settings file or the default, in this order;
a settings file that is of no use says nothing, and all that is left of it is a warning. At most one
line is sent: that of the one read that the page behind the path takes, if there is a way to ask for
its URL.
-/

namespace HomeConsole

namespace Surroundings

/-- The variables that count: those of the environment, then those of the file of variables. -/
def fullEnvironment (surroundings : Surroundings) : Environment :=
  match surroundings.environmentFile with
  | some text => EnvironmentFile.load surroundings.environment text
  | none => surroundings.environment

/-- What the settings file says; nothing if it is of no use. -/
def fileSettings (surroundings : Surroundings) : FileSettings :=
  match surroundings.home.load.2 with
  | .ok file => file
  | .error _ => {}

/-- The address of the backend as the first source gives it that has one. -/
def baseUrl (surroundings : Surroundings) (arguments : Arguments) : String :=
  (arguments.baseUrl <|> surroundings.fullEnvironment "DOMOS_BASE_URL" <|>
    surroundings.fileSettings.baseUrl).getD "http://localhost:5000"

end Surroundings

namespace Plan

variable {arguments : Arguments} {path : String} {surroundings : Surroundings}

/-! ## What a plan is made of -/

end Plan

/-! ## The end of a dump -/

namespace Report

end Report

/-- The default address of the backend. -/
def Address.default : Address :=
  ⟨"http://localhost:5000", "http", some ⟨"", .name "localhost", some 5000⟩, .segments [""], none,
    none⟩

end HomeConsole
