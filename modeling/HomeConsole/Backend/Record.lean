import HomeConsole.Json.Parser

/-!
# Records

A record is kept exactly as the backend sent it. A few members are read for navigation and display;
none is ever changed.
-/

namespace HomeConsole

/-- A record of the backend. -/
structure Record where
  value : Json
deriving Repr, Inhabited

namespace Record

/-- The id: a number as it is printed, or a text that is not empty. -/
def id? (record : Record) : Option String :=
  match record.value.get? "id" with
  | some (.number n) => some n.text
  | some (.string s) => if s.isEmpty then none else some s
  | _ => none

/-- A member that must be a text. -/
def text? (record : Record) (name : String) : Option String :=
  match record.value.get? name with
  | some (.string s) => some s
  | _ => none

/-- The name shown in the overview. -/
def name? (record : Record) : Option String := record.text? "name"

/-- The description shown in the overview. -/
def description? (record : Record) : Option String := record.text? "descr"

/-- Whether the record is switched on. The backend writes the member with a capital; the other
spelling counts only where that one is missing. -/
def active? (record : Record) : Option Bool :=
  match (record.value.get? "Active") <|> (record.value.get? "active") with
  | some (.bool b) => some b
  | _ => none

/-- Reads a record from the text of a body. -/
def parse (text : String) : Except String Record := (Json.parse text).map Record.mk

/-- Reads a list of records from the text of a body. -/
def parseList (text : String) : Except String (List Record) :=
  (Json.parseList text).map (·.map Record.mk)

end Record

end HomeConsole
