import HomeConsole.Toml.Value

/-!
# Building tables

A settings file is read line by line. A header opens a table, and the assignments below it fill that
table until the next header. Only then does it take its place below the root, so that the members of
the root are ordered by when they were completed.
-/

namespace HomeConsole.Toml

/-- The names of keys. -/
def names (path : List Key) : List String := path.map (·.name)

/-- Works on the table at the end of a path below a table. Tables missing on the way are made; of
tables with the same header the last one is entered. A dotted key may not enter a table that has a
header of its own. -/
def within {α : Type} (dotted : Bool) (walked : List Key) (work : Item → Except Cause (Item × α)) :
    List Key → Item → Except Cause (Item × α)
  | [], table => work table
  | key :: path, .table span kind members =>
    let next := walked ++ [key]
    match Members.get? members key.name with
    | none =>
      match within dotted next work path (.table none (if dotted then .dotted else .parent) []) with
      | .error cause => .error cause
      | .ok (child, a) => .ok (.table span kind (members ++ [(key, child)]), a)
    | some (.table s k m) =>
      if dotted ∧ k = .section then .error (.duplicateKey key.name none)
      else
        match within dotted next work path (.table s k m) with
        | .error cause => .error cause
        | .ok (child, a) => .ok (.table span kind (Members.replace members key.name child), a)
    | some (.tables items) =>
      match within dotted next work path (items.getLast?.getD (.table none .section [])) with
      | .error cause => .error cause
      | .ok (child, a) =>
        .ok (.table span kind (Members.replace members key.name (.tables (items.dropLast ++ [child]))), a)
    | some item => .error (.extendsValue (names next) item.kind)
  | _ :: _, item => .error (.extendsValue (names walked) item.kind)

/-- A file that is being read: the tables that are complete, and the one being filled. -/
structure Draft where
  root : Item
  current : Item
  path : List Key
  /-- Whether the table being filled is one of several with its header. -/
  repeated : Bool

namespace Draft

/-- Before the first line the root itself is being filled. -/
def empty : Draft := ⟨.table none .section [], .table none .section [], [], false⟩

/-- Lengthens the piece of the text that a table takes up to the end of a value. -/
def extend (span value : Option Span) : Option Span :=
  match span, value with
  | some span, some value => some ⟨span.start, value.stop⟩
  | span, _ => span

/-- Binds a key in a table, which has to be one that dotted keys made if `dotted`. -/
def bind (dotted : Bool) (tablePath : List Key) (key : Key) (value : Item) :
    Item → Except Cause (Item × Unit)
  | .table span kind members =>
    if dotted ∧ kind ≠ .dotted then .error (.duplicateKey key.name none)
    else
      match Members.get? members key.name with
      | some _ => .error (.duplicateKey key.name (some (names tablePath)))
      | none => .ok (.table span kind (members ++ [(key, value)]), ())
  | item => .error (.extendsValue (names tablePath) item.kind)

/-- Takes in an assignment. -/
def assign (draft : Draft) (path : List Key) (value : Item) : Except Cause Draft :=
  match path.getLast? with
  | none => .ok draft
  | some key =>
    let parents := path.dropLast
    let work := bind (! parents.isEmpty) draft.path key value
    match within true [] work parents draft.current with
    | .error cause => .error cause
    | .ok (.table span kind members, _) =>
      .ok { draft with current := .table (extend span value.span?) kind members }
    | .ok (current, _) => .ok { draft with current }

/-- How a key is shown in a complaint about a header: bare, or between quotes. -/
def shownKey (name : String) : String :=
  let cs := name.toList
  let control (c : Char) : Bool := (c.toNat < 0x20 && c != '\t') || c.toNat == 0x7F
  let escape (c : Char) : List Char :=
    if c = '"' ∨ c = '\\' then ['\\', c]
    else if c = '\x08' then ['\\', 'b']
    else if c = '\t' then ['\\', 't']
    else if c = '\n' then ['\\', 'n']
    else if c = '\x0c' then ['\\', 'f']
    else if c = '\r' then ['\\', 'r']
    else if control c then
      let digit (n : Nat) : Char := Char.ofNat (if n < 10 then 48 + n else 55 + n)
      ['\\', 'u', '0', '0', digit (c.toNat / 16), digit (c.toNat % 16)]
    else [c]
  if ! cs.isEmpty && cs.all isBareChar then name
  else if (cs.any fun c => c == '"' || c == '\\') && ! cs.any (fun c => c == '\'' || control c) then
    "'" ++ name ++ "'"
  else String.ofList ('"' :: cs.flatMap escape ++ ['"'])

/-- The complaint about a header whose last key is taken. -/
def taken (path : List Key) : Cause :=
  .duplicateKey (((path.getLast?).map fun key => shownKey key.name).getD "")
    (some (names path.dropLast))

/-- Adds a table at the end of those with the same header. -/
def append (path : List Key) (key : Key) (current : Item) : Item → Except Cause (Item × Unit)
  | .table span kind members =>
    match Members.get? members key.name with
    | none => .ok (.table span kind (members ++ [(key, .tables [current])]), ())
    | some (.tables items) =>
      .ok (.table span kind (Members.replace members key.name (.tables (items ++ [current]))), ())
    | some _ => .error (taken path)
  | item => .error (.extendsValue (names path) item.kind)

/-- Puts a table into its place. -/
def insert (path : List Key) (key : Key) (current : Item) : Item → Except Cause (Item × Unit)
  | .table span kind members =>
    match Members.get? members key.name with
    | none => .ok (.table span kind (members ++ [(key, current)]), ())
    | some _ => .error (taken path)
  | item => .error (.extendsValue (names path) item.kind)

/-- Completes the table being filled. -/
def complete (draft : Draft) : Except Cause Item :=
  match draft.path.getLast? with
  | none => .ok draft.current
  | some key =>
    let work :=
      if draft.repeated then append draft.path key draft.current
      else insert draft.path key draft.current
    (within false [] work draft.path.dropLast draft.root).map (·.1)

/-- Takes out the table that a header opens, if a table below it was opened earlier. -/
def takeParent (path : List Key) (key : Key) : Item → Except Cause (Item × Members)
  | .table span kind members =>
    match Members.get? members key.name with
    | none => .ok (.table span kind members, [])
    | some (.table _ .parent inner) => .ok (.table span kind (Members.erase members key.name), inner)
    | some _ => .error (taken path)
  | item => .error (.extendsValue (names path) item.kind)

/-- Opens a table. -/
def openTable (draft : Draft) (path : List Key) (span : Span) : Except Cause Draft :=
  match path.getLast? with
  | none => .ok draft
  | some key =>
    match draft.complete with
    | .error cause => .error cause
    | .ok root =>
      match within false [] (takeParent path key) path.dropLast root with
      | .error cause => .error cause
      | .ok (root, members) =>
        .ok ⟨root, .table (some span) .section members, path, false⟩

/-- Makes sure that a table with a header may be added. -/
def allowRepeated (path : List Key) (key : Key) : Item → Except Cause (Item × Unit)
  | .table span kind members =>
    match Members.get? members key.name with
    | none => .ok (.table span kind (members ++ [(key, .tables [])]), ())
    | some (.tables items) => .ok (.table span kind (Members.replace members key.name (.tables items)), ())
    | some _ => .error (taken path)
  | item => .error (.extendsValue (names path) item.kind)

/-- Opens one more table with a header. -/
def openRepeated (draft : Draft) (path : List Key) (span : Span) : Except Cause Draft :=
  match path.getLast? with
  | none => .ok draft
  | some key =>
    match draft.complete with
    | .error cause => .error cause
    | .ok root =>
      match within false [] (allowRepeated path key) path.dropLast root with
      | .error cause => .error cause
      | .ok (root, _) => .ok ⟨root, .table (some span) .section [], path, true⟩

end Draft

end HomeConsole.Toml
