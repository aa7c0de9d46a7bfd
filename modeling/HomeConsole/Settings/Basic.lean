import HomeConsole.Text.Blank
import HomeConsole.Text.Numeral
import HomeConsole.Text.Quoted

/-!
# Settings

Every setting has several sources, and the first one that has a usable value decides: the command
line, the environment, the settings file, the default. The sources of one setting never touch
another.
-/

namespace HomeConsole

/-- What a settings file says; every setting may be left out. -/
structure FileSettings where
  startPath : Option String := none
  logFile : Option String := none
  baseUrl : Option String := none
  timeoutSeconds : Option Nat := none
deriving Repr, DecidableEq

/-- What the command line says. -/
structure Overrides where
  baseUrl : Option String := none
  startPath : Option String := none
deriving Repr, DecidableEq

/-- The environment: the values of variables that are set to a text. -/
abbrev Environment := String → Option String

/-- A variable that is set but of no use. -/
structure Rejection where
  name : String
  value : String
  fault : NumeralFault
deriving Repr, DecidableEq

/-- The wording of a rejection. -/
def Rejection.message (rejection : Rejection) : String :=
  rejection.name ++ "=" ++ Quoted.encode rejection.value ++ ": " ++ rejection.fault.message

/-- The settings in force. -/
structure Settings where
  baseUrl : String
  /-- How many seconds a read may take; unbounded if there is no number. -/
  timeoutSeconds : Option Nat
  startPath : String
  logFile : String
  rejected : List Rejection
deriving Repr, DecidableEq

namespace Settings

/-- The defaults. -/
def default : Settings := ⟨"http://localhost:5000", some 30, "/", "domos.log", []⟩

/-- The variable for the address of the backend. -/
def baseUrlVariable : String := "DOMOS_BASE_URL"

/-- The variable for the path to start at. -/
def startPathVariable : String := "DOMOS_START_PATH"

/-- The variable for the timeout. -/
def timeoutVariable : String := "DOMOS_TIMEOUT_SECS"

/-- A number of seconds as a bound; zero stands for none. -/
def timeout (seconds : Nat) : Option Nat := if 0 < seconds then some seconds else none

/-- The number of seconds that the value of a variable asks for. -/
def readSeconds (value : String) : Except NumeralFault Nat := Numeral.read (trim value.toList)

/-- The timeout that the environment asks for, and what is wrong with it. -/
def environmentSeconds (environment : Environment) : Option Nat × List Rejection :=
  match environment timeoutVariable with
  | none => (none, [])
  | some value =>
    match readSeconds value with
    | .ok seconds => (some seconds, [])
    | .error fault => (none, [⟨timeoutVariable, value, fault⟩])

/-- The number of seconds where no other source names one. -/
def defaultSeconds : Nat := 30

/-- The settings that the sources agree on. -/
def resolve (file : FileSettings) (overrides : Overrides) (environment : Environment) :
    Settings :=
  let (seconds, rejected) := environmentSeconds environment
  { baseUrl := (overrides.baseUrl <|> environment baseUrlVariable <|> file.baseUrl).getD
      default.baseUrl
    timeoutSeconds := timeout ((seconds <|> file.timeoutSeconds).getD defaultSeconds)
    startPath := (overrides.startPath <|> environment startPathVariable <|> file.startPath).getD
      default.startPath
    logFile := file.logFile.getD default.logFile
    rejected }

end Settings

end HomeConsole
