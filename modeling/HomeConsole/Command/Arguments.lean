import HomeConsole.Text.Likeness

/-!
# Arguments

What can be said on the command line. Each parameter is written `--name value` or `--name=value` and
at most once; help may be asked for. The first argument that does not fit is complained about.
-/

namespace HomeConsole

/-- A parameter of the command line. -/
inductive Parameter where
  | baseUrl
  | path
  | dump
  | help
deriving DecidableEq, Inhabited

namespace Parameter

/-- All parameters, in the order of the help. -/
def all : List Parameter := [baseUrl, path, dump, help]

/-- The name of a parameter, without dashes. -/
def name : Parameter → String
  | baseUrl => "base-url"
  | path => "path"
  | dump => "dump"
  | help => "help"

/-- The name of a parameter with its dashes. -/
def flag (parameter : Parameter) : String := "--" ++ parameter.name

/-- A parameter as it is written, with its value. -/
def form : Parameter → String
  | baseUrl => "--base-url <BASE_URL>"
  | path => "--path <PATH>"
  | dump => "--dump <PATH>"
  | help => "--help"

/-- The parameter of a name. -/
def ofName? (name : String) : Option Parameter := all.find? fun parameter => parameter.name = name

/-- The parameter that a misspelt name most likely stands for. -/
def suggest? (name : String) : Option Parameter :=
  Likeness.closest ⟨7, 10⟩ Parameter.name name all

end Parameter

/-- What the command line says. -/
structure Arguments where
  baseUrl : Option String := none
  path : Option String := none
  dump : Option String := none
deriving DecidableEq

/-- Why the arguments are refused. -/
inductive ArgumentFault where
  /-- There is no such argument; what was given before it, and what it may stand for. -/
  | unknown (given : String) (used : List Parameter) (suggestion : Option Parameter)
  | missingValue (parameter : Parameter)
  | repeated (parameter : Parameter)
  /-- A value where there is room for none; what was given before it. -/
  | unneeded (value : String) (parameter : Parameter) (used : List Parameter)
deriving DecidableEq

namespace ArgumentFault

/-- How the program is called, with the parameters that are in use. -/
def usage (used : List Parameter) : String :=
  "Usage: domos " ++
    if used.isEmpty then "[OPTIONS]" else " ".intercalate (used.eraseDups.map Parameter.form)

/-- Where to find help. -/
def hint : String := "For more information, try '--help'.\n"

/-- The wording of a fault. -/
def message : ArgumentFault → String
  | unknown given used suggestion =>
    let tip := match suggestion with
      | some parameter => "  tip: a similar argument exists: '" ++ parameter.flag ++ "'\n\n"
      | none => ""
    "error: unexpected argument '" ++ given ++ "' found\n\n" ++ tip ++
      usage (used ++ suggestion.toList) ++ "\n\n" ++ hint
  | missingValue parameter =>
    "error: a value is required for '" ++ parameter.form ++ "' but none was supplied\n\n" ++ hint
  | repeated parameter =>
    "error: the argument '" ++ parameter.form ++ "' cannot be used multiple times\n\n" ++
      usage [] ++ "\n\n" ++ hint
  | unneeded value parameter used =>
    "error: unexpected value '" ++ value ++ "' for '" ++ parameter.flag ++
      "' found; no more were expected\n\n" ++ usage (used ++ [parameter]) ++ "\n\n" ++ hint

end ArgumentFault

/-- What the arguments ask for. -/
inductive Invocation where
  | run (arguments : Arguments)
  | help
deriving DecidableEq

namespace Arguments

/-- The text of the help. -/
def help : String :=
  "\n".intercalate
    ["Terminal console for the Domos home automation backend",
     "",
     "Usage: domos [OPTIONS]",
     "",
     "Options:",
     "      --base-url <BASE_URL>  Backend base URL, e.g. http://localhost:5000",
     "      --path <PATH>          Route to open on startup",
     "      --dump <PATH>          Load PATH once, print its data as JSON and exit",
     "  -h, --help                 Print help",
     ""]

/-- The value of a parameter. -/
def get? (arguments : Arguments) : Parameter → Option String
  | .baseUrl => arguments.baseUrl
  | .path => arguments.path
  | .dump => arguments.dump
  | .help => none

/-- Sets the value of a parameter. -/
def set (arguments : Arguments) (parameter : Parameter) (value : String) : Arguments :=
  match parameter with
  | .baseUrl => { arguments with baseUrl := some value }
  | .path => { arguments with path := some value }
  | .dump => { arguments with dump := some value }
  | .help => arguments

/-- How far the arguments have been read. -/
structure Reading where
  arguments : Arguments := {}
  /-- The parameters that have their values, in order. -/
  used : List Parameter := []
  /-- The latest parameter, and its value once that was read. -/
  pending : Option (Parameter × Option String) := none

/-- Takes in the latest parameter. -/
def Reading.settle (reading : Reading) : Except ArgumentFault Reading :=
  match reading.pending with
  | none => .ok reading
  | some (parameter, none) => .error (.missingValue parameter)
  | some (parameter, some value) =>
    if reading.used.contains parameter then .error (.repeated parameter)
    else
      .ok ⟨reading.arguments.set parameter value, reading.used ++ [parameter], none⟩

/-- The parameters that have been used, the latest one too if there is nothing wrong with it. -/
def Reading.settledUse (reading : Reading) : List Parameter :=
  match reading.settle with
  | .ok settled => settled.used
  | .error _ => reading.used

/-- An argument by its dashes. -/
inductive Shape where
  /-- Two dashes and nothing behind them: no parameters follow. -/
  | ending
  | long (name : String) (value : Option String)
  | short (letter : Char)
  | plain

/-- The shape of an argument. -/
def Shape.of (argument : String) : Shape :=
  match argument.toList with
  | ['-', '-'] => ending
  | '-' :: '-' :: text =>
    let name := String.ofList (text.takeWhile (· != '='))
    match text.dropWhile (· != '=') with
    | '=' :: value => long name (some (String.ofList value))
    | _ => long name none
  | '-' :: letter :: _ => short letter
  | _ => plain

/-- Takes in the name of a parameter, and its value if that is part of the argument. -/
def Reading.name (reading : Reading) (name : String) (value : Option String) :
    Except ArgumentFault (Option Reading) :=
  match Parameter.ofName? name with
  | none => .error (.unknown ("--" ++ name) reading.settledUse (Parameter.suggest? name))
  | some .help =>
    match value with
    | some value => .error (.unneeded value .help reading.used)
    | none => reading.settle.map fun _ => none
  | some parameter =>
    match reading.settle with
    | .error fault => .error fault
    | .ok settled =>
      let next := { settled with pending := some (parameter, value) }
      if value.isNone then .ok (some next) else next.settle.map some

/-- Reads arguments. -/
def Reading.read (reading : Reading) : List String → Except ArgumentFault Invocation
  | [] => reading.settle.map fun settled => .run settled.arguments
  | argument :: rest =>
    match Shape.of argument with
    | .ending =>
      match rest with
      | [] => reading.settle.map fun settled => .run settled.arguments
      | next :: _ => .error (.unknown next [] none)
    | .long name value =>
      match reading.name name value with
      | .error fault => .error fault
      | .ok none => .ok .help
      | .ok (some next) => next.read rest
    | .short letter =>
      if letter = 'h' then reading.settle.map fun _ => .help
      else .error (.unknown ("-" ++ letter.toString) [] none)
    | .plain =>
      match reading.pending with
      | some (parameter, none) =>
        { reading with pending := some (parameter, some argument) }.read rest
      | _ => .error (.unknown argument [] none)

/-- What the arguments ask for. -/
def parse (arguments : List String) : Except ArgumentFault Invocation := Reading.read {} arguments

end Arguments

end HomeConsole
