import HomeConsole.Decimal.Shortest

/-!
# JSON values

A value as the backend sends it. Numbers are integers of 64 bits, signed or not, or doubles, held by
their bits so that equality is plain. The members of an object are sorted by name, without
repetition. `compact` and `pretty` are its two written forms.
-/

namespace HomeConsole

/-- A number of a JSON text. -/
inductive Json.Number where
  | integer (n : Int)
  | double (bits : UInt64)
deriving Repr, DecidableEq, Inhabited

/-- A JSON value. -/
inductive Json where
  | null
  | bool (b : Bool)
  | number (n : Json.Number)
  | string (s : String)
  | array (items : List Json)
  | object (members : List (String × Json))
deriving Repr, Inhabited

namespace Json

/-- Doubles are written positionally from 1e-5 up to, but without, 1e16; the sign of an exponent is
always shown. -/
def doubleStyle : Decimal.Style where
  tieUp := false
  positional point := -5 < point ∧ point ≤ 16
  exponent e := (if e < 0 then "e-" else "e+") ++ toString e.natAbs

/-- A number as written. -/
def Number.text : Number → String
  | integer n => toString n
  | double bits => (Decimal.write? doubleStyle bits).getD "null"

/-- A hexadecimal digit in lower case. -/
def hexDigit (n : Nat) : Char := Char.ofNat (if n < 10 then '0'.toNat + n else 'a'.toNat + (n - 10))

/-- A character of a string. Only quotes, backslashes and controls are escaped. -/
def escapeChar (c : Char) : List Char :=
  if c = '"' then ['\\', '"']
  else if c = '\\' then ['\\', '\\']
  else if c = '\x08' then ['\\', 'b']
  else if c = '\t' then ['\\', 't']
  else if c = '\n' then ['\\', 'n']
  else if c = '\x0c' then ['\\', 'f']
  else if c = '\r' then ['\\', 'r']
  else if c.toNat < 0x20 then
    ['\\', 'u', '0', '0', hexDigit (c.toNat / 16), hexDigit (c.toNat % 16)]
  else [c]

/-- A string between quotes. -/
def quote (s : String) : String := String.ofList ('"' :: s.toList.flatMap escapeChar ++ ['"'])

mutual

/-- Adds the compact form of a value to a text. -/
def writeCompact (out : String) : Json → String
  | null => out ++ "null"
  | bool b => out ++ (if b then "true" else "false")
  | number n => out ++ n.text
  | string s => out ++ quote s
  | array items => (writeCompactItems (out.push '[') true items).push ']'
  | object members => (writeCompactMembers (out.push '\x7b') true members).push '\x7d'

/-- Adds items with commas between them. -/
def writeCompactItems (out : String) (first : Bool) : List Json → String
  | [] => out
  | item :: items =>
    let out := if first then out else out.push ','
    writeCompactItems (writeCompact out item) false items

/-- Adds members with commas between them. -/
def writeCompactMembers (out : String) (first : Bool) : List (String × Json) → String
  | [] => out
  | (name, value) :: members =>
    let out := if first then out else out.push ','
    writeCompactMembers (writeCompact ((out ++ quote name).push ':') value) false members

end

/-- A value on one line, without blanks. -/
def compact (value : Json) : String := writeCompact "" value

/-- A line break and the blanks that begin a line at a depth. -/
def newline (depth : Nat) : String := String.ofList ('\n' :: List.replicate (2 * depth) ' ')

mutual

/-- Adds the indented form of a value at a depth to a text. -/
def writePretty (depth : Nat) (out : String) : Json → String
  | null => out ++ "null"
  | bool b => out ++ (if b then "true" else "false")
  | number n => out ++ n.text
  | string s => out ++ quote s
  | array [] => out ++ "[]"
  | array (item :: items) =>
    (writePrettyItems (depth + 1) (out.push '[') true (item :: items) ++ newline depth).push ']'
  | object [] => out ++ "\x7b\x7d"
  | object (member :: members) =>
    (writePrettyMembers (depth + 1) (out.push '\x7b') true (member :: members)
      ++ newline depth).push '\x7d'

/-- Adds items, each on lines of its own. -/
def writePrettyItems (depth : Nat) (out : String) (first : Bool) : List Json → String
  | [] => out
  | item :: items =>
    let out := if first then out else out.push ','
    writePrettyItems depth (writePretty depth (out ++ newline depth) item) false items

/-- Adds members, each on lines of its own. -/
def writePrettyMembers (depth : Nat) (out : String) (first : Bool) :
    List (String × Json) → String
  | [] => out
  | (name, value) :: members =>
    let out := if first then out else out.push ','
    let out := out ++ newline depth ++ quote name ++ ": "
    writePrettyMembers depth (writePretty depth out value) false members

end

/-- A value over several lines, two blanks deeper at each level. -/
def pretty (value : Json) : String := writePretty 0 "" value

/-- Binds a name in sorted members; an earlier binding of it is replaced. -/
def insertMember (name : String) (value : Json) : List (String × Json) → List (String × Json)
  | [] => [(name, value)]
  | (name', value') :: members =>
    if name = name' then (name, value) :: members
    else if name < name' then (name, value) :: (name', value') :: members
    else (name', value') :: insertMember name value members

/-- The member of an object with a name. -/
def get? (value : Json) (name : String) : Option Json :=
  match value with
  | object members => (members.find? (·.1 == name)).map (·.2)
  | _ => none

end Json

end HomeConsole
