import HomeConsole.Settings.File

/-!
# The home directory

The settings file lives in a folder of its own below the home directory. Loading the settings writes
a file with all of them commented out if there is none; whatever else is found there stays as it is.
-/

namespace HomeConsole

/-- What is at the place of the settings file, inside its folder. -/
inductive SettingsEntry where
  | missing
  | file (content : List UInt8)
  | folder
  /-- A file that may be neither read nor written. -/
  | locked
  /-- A link to a file in a folder that does not exist. -/
  | dangling
deriving Repr, DecidableEq

/-- The state of the home directory, as far as settings go. -/
inductive Home where
  /-- There is no folder for the settings file. -/
  | bare
  /-- A file is in the place of that folder. -/
  | blocked
  | folder (entry : SettingsEntry)
deriving Repr, DecidableEq

namespace Home

/-- The settings file below the home directory. -/
def settingsPath : String := ".domos/config.toml"

/-- The text of a settings file that sets nothing and lists everything. -/
def template : String :=
  "\n".intercalate
    ["# Domos Console Configuration",
     "# All settings are optional. Defaults are used for anything not specified.",
     "# Override hierarchy: defaults → this file → env vars → CLI flags.",
     "",
     "# [general]",
     "# start_path = \"/\"                   # Or set DOMOS_START_PATH, or pass --path",
     "# log_file = \"domos.log\"",
     "",
     "# [server]",
     "# base_url = \"http://localhost:5000\" # Or set DOMOS_BASE_URL, or pass --base-url",
     "# request_timeout_secs = 30          # Or set DOMOS_TIMEOUT_SECS; 0 = no timeout",
     ""]

/-- The content of the settings file, if it is a file. -/
def content? : Home → Option (List UInt8)
  | folder (.file content) => some content
  | _ => none

/-- Whether something is found at the place of the settings file. A link that leads nowhere is
nothing. -/
def hasSettings : Home → Bool
  | folder (.file _) | folder .folder | folder .locked => true
  | _ => false

/-- Writes a text to the settings file, making its folder if need be; says whether that worked. -/
def write (content : String) : Home → Home × Bool
  | bare | folder .missing | folder (.file _) =>
    (folder (.file (Utf8.encode content.toList)), true)
  | home => (home, false)

/-- Removes the settings file. -/
def delete : Home → Home × Bool
  | folder (.file _) | folder .locked | folder .dangling => (folder .missing, true)
  | home => (home, false)

/-- Removes the folder with all that is in it. -/
def deleteFolder : Home → Home × Bool
  | folder _ => (bare, true)
  | home => (home, false)

/-- Puts a file in the place of the folder. -/
def block : Home → Home × Bool
  | bare | blocked => (blocked, true)
  | home => (home, false)

/-- Puts a folder in the place of the settings file. -/
def makeFolder : Home → Home × Bool
  | bare | folder .missing | folder .folder => (folder .folder, true)
  | home => (home, false)

/-- Puts a link that leads nowhere in the place of the settings file. -/
def dangle : Home → Home × Bool
  | bare | folder .missing => (folder .dangling, true)
  | home => (home, false)

/-- What is found at the place of the settings file. -/
def find : Home → FileContent
  | folder (.file content) => .bytes content
  | folder .folder => .folder
  | folder .locked => .locked
  | _ => .missing

/-- Loads the settings. Where there are none the template is written, if it can be, and nothing is
set. -/
def load (home : Home) : Home × Except SettingsError FileSettings :=
  if home.hasSettings then (home, FileSettings.load home.find)
  else ((home.write template).1, .ok {})

end Home

end HomeConsole
