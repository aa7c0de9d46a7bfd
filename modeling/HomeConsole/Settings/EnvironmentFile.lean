import HomeConsole.Settings.Basic
import HomeConsole.Text.Alphanumeric
import HomeConsole.Text.Blank
import HomeConsole.Text.Lines
import HomeConsole.Text.Utf8

/-!
# Files of variables

A file may set variables of the environment, one in a line. A variable that is set already keeps its
value. Values may be quoted, and may refer to variables. Reading stops at the first line that is of
no use; what was set before stays.
-/

namespace HomeConsole.EnvironmentFile

/-- The value of a name in a value: that of the environment, else the one that the file gave it. -/
def lookUp (environment : Environment) (known : List (String × String)) (name : String) : String :=
  match environment name with
  | some value => value
  | none => ((known.find? (·.1 == name)).map (·.2)).getD ""

/-- Whether the name of a variable is being read in a value. -/
inductive Reference where
  | none
  /-- After a dollar sign. -/
  | bare
  /-- After a dollar sign and a brace. -/
  | braced
deriving DecidableEq

/-- What a character in a value may stand in. -/
inductive Quote where
  | none
  | single
  | double
deriving DecidableEq

/-- How far a value has been read. -/
structure Reading where
  /-- The value so far, latest character first. -/
  output : List Char := []
  quote : Quote := .none
  escaped : Bool := false
  /-- The value is over; only blanks and a comment may follow. -/
  ended : Bool := false
  reference : Reference := .none
  /-- The name of a variable so far, latest character first. -/
  name : List Char := []

namespace Reading

/-- Adds a character to the value. -/
def push (reading : Reading) (c : Char) : Reading := { reading with output := c :: reading.output }

/-- Puts the value of the variable in the place of its name. -/
def substitute (look : String → String) (reading : Reading) : Reading :=
  { reading with
    output := (look (String.ofList reading.name.reverse)).toList.reverse ++ reading.output
    reference := .none
    name := [] }

/-- A character within a reference to a variable. -/
def stepReference (look : String → String) (reading : Reading) (c : Char) : Reading :=
  if alphanumeric.has c then { reading with name := c :: reading.name }
  else
    match reading.reference with
    | .braced =>
      if c = '\x7d' then reading.substitute look else { reading with name := c :: reading.name }
    | _ =>
      if c = '\x7b' ∧ reading.name = [] then { reading with reference := .braced }
      else
        let reading := reading.substitute look
        if c = '$' then { reading with reference := .bare } else reading.push c

/-- A character behind a backslash. -/
def stepEscape (reading : Reading) (c : Char) : Option Reading :=
  let reading := { reading with escaped := false }
  if ['\\', '\'', '"', '$', ' '].contains c then some (reading.push c)
  else if c = 'n' then some (reading.push '\n')
  else none

/-- A character of a value outside of references and escapes. -/
def stepPlain (reading : Reading) (c : Char) : Reading :=
  if c = '$' then { reading with reference := .bare }
  else if c = '\\' then { reading with escaped := true }
  else if reading.quote = .double then
    if c = '"' then { reading with quote := .none } else reading.push c
  else if c = '\'' then { reading with quote := .single }
  else if c = '"' then { reading with quote := .double }
  else if c = ' ' ∨ c = '\t' then { reading with ended := true }
  else reading.push c

/-- The value that was read, if nothing in it is left open. -/
def finish (look : String → String) (reading : Reading) : Option String :=
  if reading.reference = .braced ∨ reading.quote ≠ .none then none
  else some (String.ofList (reading.substitute look).output.reverse)

/-- Reads a value. -/
def read (look : String → String) (reading : Reading) : List Char → Option String
  | [] => reading.finish look
  | c :: cs =>
    if reading.ended then
      if c = ' ' ∨ c = '\t' then reading.read look cs
      else if c = '#' then reading.finish look
      else none
    else if reading.escaped then
      match reading.stepEscape c with
      | some next => next.read look cs
      | none => none
    else if reading.quote = .single then
      (if c = '\'' then { reading with quote := .none } else reading.push c).read look cs
    else if reading.reference ≠ .none then (reading.stepReference look c).read look cs
    else (reading.stepPlain c).read look cs

end Reading

/-- Whether a character can begin the name of a variable. -/
def isNameStart (c : Char) : Bool := c.isAlpha || c == '_'

/-- Whether a character can be part of the name of a variable. -/
def isNamePart (c : Char) : Bool := c.isAlphanum || c == '_' || c == '.'

/-- The name at the front of a text, and what follows it. -/
def takeName (cs : List Char) : Option (String × List Char) :=
  match cs with
  | c :: _ =>
    if isNameStart c then
      some (String.ofList (cs.takeWhile isNamePart), (cs.dropWhile isNamePart).dropWhile isBlank)
    else none
  | [] => none

/-- What follows the name of a variable: an equals sign, and the text of the value. -/
def takeEquals : List Char → Option (List Char)
  | '=' :: cs => some (cs.dropWhile isBlank)
  | _ => none

/-- The name in a line and the text of its value. The word `export` may stand before the name. -/
def takeAssignment (cs : List Char) : Option (String × List Char) :=
  match takeName cs with
  | none => none
  | some (name, rest) =>
    match takeEquals rest with
    | some value => some (name, value)
    | none =>
      if name = "export" then
        match takeName rest with
        | some (name, rest) => (takeEquals rest).map fun value => (name, value)
        | none => none
      else none

/-- A line of a file of variables. -/
inductive Entry where
  | nothing
  | assignment (name value : String)
  | fault
deriving DecidableEq

/-- Reads a line. -/
def readLine (look : String → String) (line : String) : Entry :=
  match (trimEnd line.toList).dropWhile isBlank with
  | [] => .nothing
  | '#' :: _ => .nothing
  | cs =>
    match takeAssignment cs with
    | none => .fault
    | some (name, []) => .assignment name ""
    | some (name, '#' :: _) => .assignment name ""
    | some (name, value) =>
      match Reading.read look {} value with
      | some text => .assignment name text
      | none => .fault

/-- An environment with a variable set, unless it was set before. -/
def set (environment : Environment) (name value : String) : Environment := fun other =>
  match environment other with
  | some known => some known
  | none => if other = name then some value else none

/-- The environment after the lines of a file. -/
def apply (environment : Environment) (known : List (String × String)) :
    List String → Environment
  | [] => environment
  | line :: lines =>
    match readLine (lookUp environment known) line with
    | .nothing => apply environment known lines
    | .assignment name value => apply (set environment name value) ((name, value) :: known) lines
    | .fault => environment

/-- The environment after a file. -/
def load (environment : Environment) (text : String) : Environment :=
  apply environment [] (linesOf text)

/-- The lines of a file up to the first one that is no text. -/
def textOf (bytes : List UInt8) : String :=
  let lines := (splitWhere (· == 0x0A) bytes).map Utf8.decode?
  "\n".intercalate ((lines.takeWhile Option.isSome).filterMap fun line => line.map String.ofList)

end HomeConsole.EnvironmentFile
