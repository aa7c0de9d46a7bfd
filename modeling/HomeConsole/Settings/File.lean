import HomeConsole.Settings.Basic
import HomeConsole.Text.Utf8
import HomeConsole.Toml.Document

/-!
# The settings file

Two tables, `general` and `server`, hold the settings. What else a file contains is ignored. A list
may stand for a table and then gives the settings in order.
-/

namespace HomeConsole

open Toml

namespace FileSettings

/-- A member that cannot be a setting: why, and where, unless an outer value has to say so. -/
structure Mismatch where
  message : String
  span : Option Toml.Span

/-- Doubles in messages are written positionally. -/
def doubleText (bits : UInt64) : String :=
  let f := Float.ofBits bits
  if f.isNaN then "NaN"
  else if f.isInf then if f > 0.0 then "inf" else "-inf"
  else (Decimal.write? .plain bits).getD ""

/-- A value as a message shows it. -/
def shown : Item → String
  | .string _ text => "string " ++ Quoted.encode text
  | .integer _ n => "integer `" ++ toString n ++ "`"
  | .float _ bits => "floating point `" ++ doubleText bits ++ "`"
  | .boolean _ b => "boolean `" ++ (if b then "true" else "false") ++ "`"
  | .array _ _ | .tables _ => "sequence"
  | .dateTime _ | .inlineTable _ _ | .table _ _ _ => "map"

/-- A value of the wrong kind. -/
def wrongKind (item : Item) (expected : String) : Mismatch :=
  ⟨"invalid type: " ++ shown item ++ ", expected " ++ expected, item.span?⟩

/-- A text. -/
def text : Item → Except Mismatch String
  | .string _ text => .ok text
  | item => .error (wrongKind item "a string")

/-- A number that is not negative. -/
def number : Item → Except Mismatch Nat
  | .integer span n =>
    if 0 ≤ n then .ok n.toNat
    else .error ⟨"invalid value: integer `" ++ toString n ++ "`, expected u64", some span⟩
  | item => .error (wrongKind item "u64")

/-- A group of settings: its name in messages, and what each member by name and each item by place
adds to what is known. -/
structure Group where
  title : String
  member : String → Item → FileSettings → Except Mismatch FileSettings
  places : List (Item → FileSettings → Except Mismatch FileSettings)

/-- Sets the path to start at. -/
def setStartPath (item : Item) (settings : FileSettings) : Except Mismatch FileSettings := do
  return { settings with startPath := some (← text item) }

/-- Sets the name of the log file. -/
def setLogFile (item : Item) (settings : FileSettings) : Except Mismatch FileSettings := do
  return { settings with logFile := some (← text item) }

/-- Sets the address of the backend. -/
def setBaseUrl (item : Item) (settings : FileSettings) : Except Mismatch FileSettings := do
  return { settings with baseUrl := some (← text item) }

/-- Sets the timeout. -/
def setTimeout (item : Item) (settings : FileSettings) : Except Mismatch FileSettings := do
  return { settings with timeoutSeconds := some (← number item) }

/-- The settings in `general`. -/
def general : Group where
  title := "struct GeneralConfig"
  member
    | "start_path", item => setStartPath item
    | "log_file", item => setLogFile item
    | _, _ => .ok
  places := [setStartPath, setLogFile]

/-- The settings in `server`. -/
def server : Group where
  title := "struct ServerConfig"
  member
    | "base_url", item => setBaseUrl item
    | "request_timeout_secs", item => setTimeout item
    | _, _ => .ok
  places := [setBaseUrl, setTimeout]

/-- Says where a mismatch is, if that is not known yet. -/
def Mismatch.locate (span : Option Toml.Span) (mismatch : Mismatch) : Mismatch :=
  { mismatch with span := mismatch.span <|> span }

/-- Takes in the members of a table in order. -/
def members (step : String → Item → FileSettings → Except Mismatch FileSettings)
    (settings : FileSettings) : Members → Except Mismatch FileSettings
  | [] => .ok settings
  | (key, item) :: more =>
    match step key.name item settings with
    | .error mismatch => .error (mismatch.locate (item.span? <|> some key.span))
    | .ok settings => members step settings more

namespace Group

/-- Takes in the items of a list by their places, `taken` of which are done. Items beyond the last
place are ignored. -/
def items (group : Group) (taken : Nat) (settings : FileSettings) :
    List (Item → FileSettings → Except Mismatch FileSettings) → List Item →
    Except Mismatch FileSettings
  | [], _ => .ok settings
  | _ :: _, [] =>
    .error ⟨"invalid length " ++ toString taken ++ ", expected " ++ group.title ++ " with " ++
      toString group.places.length ++ " elements", none⟩
  | place :: places, item :: more =>
    match place item settings with
    | .error mismatch => .error mismatch
    | .ok settings => items group (taken + 1) settings places more

/-- Takes in a group. A date has no member of any name. -/
def read (group : Group) (item : Item) (settings : FileSettings) : Except Mismatch FileSettings :=
  let result :=
    match item with
    | .table _ _ inner | .inlineTable _ inner => members group.member settings inner
    | .dateTime _ => .ok settings
    | .array _ items | .tables items => group.items 0 settings group.places items
    | item => .error (wrongKind item group.title)
  result.mapError (·.locate item.span?)

end Group

/-- Takes in a member of the root. -/
def rootMember : String → Item → FileSettings → Except Mismatch FileSettings
  | "general", item => general.read item
  | "server", item => server.read item
  | _, _ => .ok

/-- Reads the text of a settings file. -/
def parse (content : String) : Except String FileSettings :=
  match Toml.parse content.toList with
  | .error fault => .error (fault.text content.toList)
  | .ok inner =>
    match members rootMember {} inner with
    | .error ⟨message, span⟩ => .error (Fault.text ⟨message, span⟩ content.toList)
    | .ok settings => .ok settings

end FileSettings

/-! ## Loading -/

/-- What is found where a file is looked for. -/
inductive FileContent where
  | missing
  | folder
  /-- A file that may not be read. -/
  | locked
  | bytes (bytes : List UInt8)
deriving DecidableEq

/-- Why settings cannot be loaded. -/
inductive SettingsError where
  | missing
  | isFolder
  | isLocked
  | notText
  /-- The text is no settings file; the fault is worded already. -/
  | malformed (fault : String)
deriving Repr, DecidableEq

/-- The wording of a failure to load settings. -/
def SettingsError.message : SettingsError → String
  | missing => "config I/O error: No such file or directory (os error 2)"
  | isFolder => "config I/O error: Is a directory (os error 21)"
  | isLocked => "config I/O error: Permission denied (os error 13)"
  | notText => "config I/O error: stream did not contain valid UTF-8"
  | malformed fault => "config parse error: " ++ fault

/-- Loads the settings from what is found. -/
def FileSettings.load : FileContent → Except SettingsError FileSettings
  | .missing => .error .missing
  | .folder => .error .isFolder
  | .locked => .error .isLocked
  | .bytes bytes =>
    match Utf8.decode? bytes with
    | none => .error .notText
    | some text => (FileSettings.parse (String.ofList text)).mapError .malformed

end HomeConsole
