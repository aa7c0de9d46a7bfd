import HomeConsole.Text.Utf8
import HomeConsole.Toml.Table

/-!
# Whole files

A file is a sequence of comments, headers, line breaks and assignments. `parse` reads all of it or
gives the first fault, worded and with the line it is in.
-/

namespace HomeConsole.Toml

open Reader

/-- What may follow on the line of a header or an assignment. -/
def lineEnding : Reader Unit := expecting [.newline, .mark "#"] lineRest

/-- Takes in what was read, or refuses it softly at its beginning. -/
def apply {α : Type} (reader : Reader α) (step : α → Except Cause Draft) : Reader Draft :=
  checked reader fun a => (step a).mapError some

/-- An assignment. -/
def assignmentLine (draft : Draft) : Reader Draft :=
  apply
    (do
      let path ← dottedKey
      let item ← commit (assignment (value (maxDepth - 1)) lineEnding)
      return (path, item))
    fun (path, item) => draft.assign path item

/-- A header between two marks, and the rest of its line. -/
def header (opening closing : String) : Reader (List Key × Span) := do
  let (path, span) ← spanned do
    literal opening.toList
    let path ← commit dottedKey
    expecting [.mark ".", .mark closing] (commit (literal closing.toList))
    return path
  commit lineEnding
  return (path, span)

/-- A header. -/
def headerLine (draft : Draft) : Reader Draft := label .tableHeader fun place =>
  match place with
  | '[' :: '[' :: _ =>
    apply (header "[[" "]]") (fun (path, span) => draft.openRepeated path span) place
  | _ :: _ :: _ => apply (header "[" "]") (fun (path, span) => draft.openTable path span) place
  | _ => .error { place }

/-- One comment, header, line break or assignment. -/
def element (draft : Draft) : Reader Draft := fun place =>
  match place with
  | [] => .error { place }
  | '#' :: _ => commit (do comment; lineEnd; return draft) place
  | '[' :: _ => commit (headerLine draft) place
  | '\n' :: _ => (do newline; return draft : Reader Draft) place
  | '\r' :: _ => (do newline; return draft : Reader Draft) place
  | _ => commit (assignmentLine draft) place

/-- Elements until one fails softly, with a bound on their number. -/
def elements : Nat → Draft → Reader Draft
  | 0, draft => pure draft
  | bound + 1, draft => do
    match ← optional (do let next ← element draft; spaces; return next) with
    | some next => elements bound next
    | none => return draft

/-- A whole file. -/
def document : Reader Draft := fun place =>
  (do
    let _ ← optional (char '\uFEFF')
    spaces
    let draft ← elements place.length .empty
    endOfText
    return draft : Reader Draft) place

/-! ## Faults -/

/-- What is wrong with a file and, where it is known, in which piece of it. -/
structure Fault where
  message : String
  span : Option Span

/-- The line and the column of a place, both from zero. Columns count characters; before a
character of several bytes they count bytes. The end of a text is one column behind its last
character. -/
def position (text : List Char) (place : Place) : Nat × Nat :=
  let seen := text.take (text.length - place.length)
  match place with
  | c :: _ =>
    let before := (seen.reverse.takeWhile (· != '\n'))
    (seen.count '\n', if c.utf8Size = 1 then before.length else Utf8.size before)
  | [] =>
    let body := seen.dropLast
    let before := (body.reverse.takeWhile (· != '\n'))
    (body.count '\n', if seen.isEmpty then 0 else before.length + 1)

/-- A line of a text. -/
def lineAt : Nat → List Char → List Char
  | 0, text => text.takeWhile (· != '\n')
  | line + 1, text => lineAt line ((text.dropWhile (· != '\n')).drop 1)

/-- Some blanks. -/
def blanks (n : Nat) : String := String.ofList (List.replicate n ' ')

/-- The line of a fault with a mark below the piece that is meant. -/
def excerpt (text : List Char) (span : Span) : String :=
  let (line, column) := position text span.start
  let number := toString (line + 1)
  let content := lineAt line text
  let wanted := Utf8.size span.start - Utf8.size span.stop
  let marks := max 1 (min wanted (Utf8.size content - column))
  let gutter := blanks (number.length + 1) ++ "|"
  "TOML parse error at line " ++ number ++ ", column " ++ toString (column + 1) ++ "\n" ++
    gutter ++ "\n" ++ number ++ " | " ++ String.ofList content ++ "\n" ++
    gutter ++ blanks (column + 1) ++ String.ofList (List.replicate marks '^') ++ "\n"

/-- The wording of a fault in a text. -/
def Fault.text (fault : Fault) (text : List Char) : String :=
  ((fault.span.map (excerpt text)).getD "") ++ fault.message ++ "\n"

/-- The fault behind a failed reading: one character at its place. -/
def Fault.ofFailure (failure : Failure) : Fault :=
  ⟨failure.message, some ⟨failure.place, failure.place.drop 1⟩⟩

/-- The members of the root of a file. -/
def parse (text : List Char) : Except Fault Members :=
  match document text with
  | .error failure => .error (.ofFailure failure)
  | .ok (draft, _) =>
    match draft.complete with
    | .error cause => .error ⟨cause.message, none⟩
    | .ok (.table _ _ members) => .ok members
    | .ok _ => .ok []

end HomeConsole.Toml
