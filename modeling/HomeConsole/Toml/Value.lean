import HomeConsole.Toml.Number

/-!
# Values

Strings, numbers, dates, lists and tables, each with the piece of the text it was read from.
-/

namespace HomeConsole.Toml

open Reader

/-- How a table came to be, which decides who may add to it. -/
inductive TableKind where
  /-- By a header of its own. -/
  | section
  /-- By the header of a table below it. -/
  | parent
  /-- By a dotted key. -/
  | dotted
deriving DecidableEq

/-- A value or table. -/
inductive Item where
  | string (span : Span) (text : String)
  | integer (span : Span) (n : Int)
  | float (span : Span) (bits : UInt64)
  | boolean (span : Span) (b : Bool)
  | dateTime (span : Span)
  | array (span : Span) (items : List Item)
  /-- A table within braces; one that a dotted key made has no piece of its own. -/
  | inlineTable (span : Option Span) (members : List (Key × Item))
  | table (span : Option Span) (kind : TableKind) (members : List (Key × Item))
  /-- Tables with the same header. -/
  | tables (items : List Item)

namespace Item

/-- The name of a kind of value. -/
def kind : Item → String
  | string _ _ => "string"
  | integer _ _ => "integer"
  | float _ _ => "float"
  | boolean _ _ => "boolean"
  | dateTime _ => "datetime"
  | array _ _ => "array"
  | inlineTable _ _ => "inline table"
  | table _ _ _ => "table"
  | tables _ => "array of tables"

/-- The piece of the text that a value was read from. -/
def span? : Item → Option Span
  | string span _ | integer span _ | float span _ | boolean span _ | dateTime span
  | array span _ => some span
  | inlineTable span _ | table span _ _ => span
  | tables items =>
    match items.head?, items.getLast? with
    | some (table (some first) _ _), some (table (some last) _ _) => some ⟨first.start, last.stop⟩
    | _, _ => none

end Item

/-! ## Members of tables -/

/-- The members of a table, in the order in which they first came up. -/
abbrev Members := List (Key × Item)

namespace Members

/-- The member with a name. -/
def get? (members : Members) (name : String) : Option Item :=
  (members.find? (·.1.name == name)).map (·.2)

/-- Puts another value in the place of a member. -/
def replace (members : Members) (name : String) (item : Item) : Members :=
  members.map fun (key, old) => if key.name == name then (key, item) else (key, old)

/-- The members without one of them. -/
def erase (members : Members) (name : String) : Members :=
  members.filter (·.1.name != name)

end Members

/-- Binds a key of one or more parts in a table within braces. -/
def bindInline (walked : List Key) (value : Item) :
    List Key → Members → Except Cause Members
  | [], members => .ok members
  | [key], members =>
    match members.get? key.name with
    | some _ => .error (.duplicateKey key.name none)
    | none => .ok (members ++ [(key, value)])
  | key :: path, members =>
    match members.get? key.name with
    | none =>
      match bindInline (walked ++ [key]) value path [] with
      | .error cause => .error cause
      | .ok inner => .ok (members ++ [(key, .inlineTable none inner)])
    | some (.inlineTable none inner) =>
      match bindInline (walked ++ [key]) value path inner with
      | .error cause => .error cause
      | .ok inner => .ok (members.replace key.name (.inlineTable none inner))
    | some (.inlineTable (some _) _) => .error (.duplicateKey key.name none)
    | some item => .error (.extendsValue ((walked ++ [key]).map (·.name)) item.kind)

/-- The members of a table within braces, bound one by one. -/
def bindAll : List (List Key × Item) → Members → Except (Option Cause) Members
  | [], members => .ok members
  | (path, value) :: more, members =>
    match bindInline [] value path members with
    | .error cause => .error (some cause)
    | .ok members => bindAll more members

/-! ## Reading values -/

/-- The marks that begin a string. -/
def quoteMarks : List Expected := [.mark "\"", .mark "'"]

/-- Reads a value for which nothing but a string is suggested when it is none. -/
def orString {α : Type} (reader : Reader α) : Reader α :=
  expecting quoteMarks (label .value reader)

/-- A word, taken for good from its first letter on. -/
def word (text : List Char) : Reader Unit := commit (literal text)

/-- The part of a key assignment behind the key, with what may follow it. -/
def assignment {α : Type} (value : Reader Item) (ending : Reader α) : Reader Item := do
  expecting [.mark ".", .mark "="] (char '=')
  spaces
  let item ← value
  let _ ← ending
  return item

/-- A list, each item read by `value`. -/
def array (value : Reader Item) : Reader (List Item) := do
  char '['
  let items ← commit fun place =>
    match place with
    | ']' :: _ => .ok ([], place)
    | _ => (do
      let items ← separated (do gap; let item ← value; gap; return item) (char ',')
      if ! items.isEmpty then
        let _ ← optional (char ',')
      gap
      return items : Reader (List Item)) place
  label .array <| expecting [.mark "]"] (commit (char ']'))
  return items

/-- A table within braces, each value read by `value`. -/
def inlineTable (value : Reader Item) : Reader Members := do
  char '\x7b'
  let members ← commit <| checked
    (do
      let pairs ← separated
        (do
          let path ← dottedKey
          let item ← commit (assignment value spaces)
          return (path, item))
        (char ',')
      spaces
      return pairs)
    fun pairs => bindAll pairs []
  label .inlineTable <| expecting [.mark "\x7d"] (commit (char '\x7d'))
  return members

/-- Gives what was read together with its piece of the text to a constructor. -/
def located {α : Type} (make : Span → α → Item) (reader : Reader α) : Reader Item := do
  let (a, span) ← spanned reader
  return make span a

/-- A container that may not be opened any more. -/
def tooDeep : Reader Item := fun place => commit (refuse place .tooDeep) place

/-- A value in which containers may be nested `depth` deep. -/
def value (depth : Nat) : Reader Item := fun place =>
  match place with
  | [] => .error { place }
  | c :: _ =>
    if c = '"' ∨ c = '\'' then located .string string place
    else if c = '[' then
      match depth with
      | 0 => tooDeep place
      | depth + 1 => located .array (array (value depth)) place
    else if c = '\x7b' then
      match depth with
      | 0 => tooDeep place
      | depth + 1 => located (fun span => .inlineTable (some span)) (inlineTable (value depth)) place
    else if c = '+' ∨ c = '-' ∨ c.isDigit then
      (orElse (located (fun span _ => .dateTime span) dateTime) <|
        orElse (located (fun span (f : Float) => .float span f.toBits) float)
          (located .integer integer)) place
    else if c = '_' then
      located .integer (expecting [.described "leading digit"] integer) place
    else if c = '.' then
      located (fun span (f : Float) => .float span f.toBits)
        (expecting [.described "leading digit"] float) place
    else if c = 't' then
      located (fun span _ => .boolean span true) (orString (word ['t', 'r', 'u', 'e'])) place
    else if c = 'f' then
      located (fun span _ => .boolean span false)
        (orString (word ['f', 'a', 'l', 's', 'e'])) place
    else if c = 'i' then
      located (fun span (f : Float) => .float span f.toBits) (orString infinity) place
    else if c = 'n' then
      located (fun span (f : Float) => .float span f.toBits) (orString notANumber) place
    else orString fail place

end HomeConsole.Toml
