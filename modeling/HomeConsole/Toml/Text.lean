import HomeConsole.Toml.Reader

/-!
# Blanks, comments, strings and keys

The pieces of a settings file that are read character by character.
-/

namespace HomeConsole.Toml

open Reader

/-! ## Blanks and comments -/

/-- A blank within a line. -/
def isSpace (c : Char) : Bool := c == ' ' || c == '\t'

/-- Blanks within a line. -/
def spaces : Reader Unit := do let _ ← takeWhile isSpace

/-- The end of a line. -/
def newline : Reader Unit := orElse (char '\n') (do char '\r'; char '\n')

/-- The end of the text. -/
def endOfText : Reader Unit
  | [] => .ok ((), [])
  | place => .error { place }

/-- A character of a comment. -/
def isCommentChar (c : Char) : Bool := c == '\t' || (0x20 ≤ c.toNat && c.toNat ≠ 0x7F)

/-- A comment up to the end of its line. -/
def comment : Reader Unit := do
  char '#'
  let _ ← takeWhile isCommentChar

/-- The end of a line or of the text. -/
def lineEnd : Reader Unit := orElse newline endOfText

/-- What may follow on a line: blanks, a comment, the end. -/
def lineRest : Reader Unit := do
  spaces
  let _ ← optional comment
  lineEnd

/-- Blanks, comments and line breaks, with a bound on how many lines. -/
def gapUpTo : Nat → Reader Unit
  | 0 => pure ()
  | bound + 1 => do
    spaces
    match ← here with
    | '#' :: _ => comment; newline; gapUpTo bound
    | '\n' :: _ => newline; gapUpTo bound
    | '\r' :: _ => newline; gapUpTo bound
    | _ => pure ()

/-- Blanks, comments and line breaks. -/
def gap : Reader Unit := fun place => gapUpTo (place.length + 1) place

/-! ## Strings -/

/-- The value of hexadecimal digits. -/
def hexNumber (digits : List Char) : Nat :=
  digits.foldl (fun n c =>
    n * 16 + (if c.isDigit then c.toNat - '0'.toNat else c.toLower.toNat - 'a'.toNat + 10)) 0

/-- A hexadecimal digit. -/
def isHexDigit (c : Char) : Bool :=
  c.isDigit || ('a' ≤ c && c ≤ 'f') || ('A' ≤ c && c ≤ 'F')

/-- A character by its code in a number of hexadecimal digits. -/
def codePoint (digits : Nat) : Reader Char :=
  checked (takeBetween digits digits isHexDigit) fun taken =>
    let code := hexNumber taken
    if code < 0xD800 ∨ (0xDFFF < code ∧ code < 0x110000) then .ok (Char.ofNat code)
    else .error (some .outOfRange)

/-- The characters that may follow a backslash. -/
def escapeMarks : List Expected :=
  [.mark "b", .mark "f", .mark "n", .mark "r", .mark "t", .mark "u", .mark "U", .mark "\\",
    .mark "\""]

/-- Refuses an escape for good. The place is behind a character of one byte, before a longer
one. -/
def badEscape (start : Place) : Reader Char :=
  commit <| expecting escapeMarks <| label .escapeSequence fun behind =>
    match start with
    | c :: _ => .error { place := if c.utf8Size = 1 then behind else start }
    | [] => .error { place := behind }

/-- What follows a backslash. -/
def escapeCode : Reader Char := do
  let start ← here
  match ← satisfy fun _ => true with
  | 'b' => pure '\x08'
  | 'f' => pure '\x0c'
  | 'n' => pure '\n'
  | 'r' => pure '\r'
  | 't' => pure '\t'
  | 'u' => label .shortCode (commit (codePoint 4))
  | 'U' => label .longCode (commit (codePoint 8))
  | '\\' => pure '\\'
  | '"' => pure '"'
  | _ => badEscape start

/-- An escape. -/
def escape : Reader (List Char) := do
  char '\\'
  return [← escapeCode]

/-- A character that stands for itself between double quotes. -/
def isPlain (c : Char) : Bool := isCommentChar c && c != '"' && c != '\\'

/-- A character that stands for itself between single quotes. -/
def isLiteralChar (c : Char) : Bool := isCommentChar c && c != '\''

/-- A string between double quotes. -/
def basicString : Reader (List Char) := do
  char '"'
  let pieces ← many (orElse (takeWhile1 isPlain) escape)
  label .basicString (commit (char '"'))
  return pieces.flatten

/-- A string between single quotes. -/
def literalString : Reader (List Char) := label .literalString do
  char '\''
  let text ← takeWhile isLiteralChar
  commit (char '\'')
  return text

/-- A backslash at the end of a line, which joins the next lines to it. -/
def joinedLines : Reader (List Char) := do
  let one : Reader Unit := do
    char '\\'
    spaces
    newline
    let _ ← many (orElse newline (do let _ ← takeWhile1 isSpace))
  one
  let _ ← many one
  return []

/-- A piece of a string of several lines between double quotes. -/
def multilinePiece : Reader (List Char) :=
  orElse (takeWhile1 isPlain) <| orElse joinedLines <| orElse escape
    (do newline; return ['\n'])

/-- One or two quotes, if what ends them follows. -/
def innerQuotes (quote : Char) (ending : Reader Unit) : Reader (List Char) :=
  orElse (do literal [quote, quote]; lookahead ending; return [quote, quote])
    (do literal [quote]; lookahead ending; return [quote])

/-- The three quotes around a string of several lines. -/
def tripleQuote (quote : Char) : Reader Unit := literal [quote, quote, quote]

/-- A string of several lines between double quotes. -/
def multilineBasicString : Reader (List Char) := label .multilineBasicString do
  tripleQuote '"'
  let _ ← optional newline
  commit do
    let pieces ← many multilinePiece
    let more ← many do
      let quotes ← innerQuotes '"' (do let _ ← multilinePiece)
      let piece ← multilinePiece
      let pieces ← many multilinePiece
      return quotes ++ piece ++ pieces.flatten
    let quotes ← optional (innerQuotes '"' (tripleQuote '"'))
    tripleQuote '"'
    return pieces.flatten ++ more.flatten ++ quotes.getD []

/-- A character or line break of a string of several lines between single quotes. -/
def literalPiece : Reader (List Char) :=
  orElse (do return [← satisfy isLiteralChar]) (do newline; return ['\n'])

/-- A string of several lines between single quotes. -/
def multilineLiteralString : Reader (List Char) := label .multilineLiteralString do
  tripleQuote '\''
  let _ ← optional newline
  commit do
    let pieces ← many literalPiece
    let more ← many do
      let quotes ← innerQuotes '\'' (do let _ ← literalPiece)
      let piece ← literalPiece
      let pieces ← many literalPiece
      return quotes ++ piece ++ pieces.flatten
    let quotes ← optional (innerQuotes '\'' (tripleQuote '\''))
    tripleQuote '\''
    return pieces.flatten ++ more.flatten ++ quotes.getD []

/-- A string in any of its four forms. -/
def string : Reader String := do
  let text ← orElse multilineBasicString <| orElse basicString <|
    orElse multilineLiteralString literalString
  return String.ofList text

/-! ## Keys -/

/-- A key and the piece of the text where it stands. -/
structure Key where
  name : String
  span : Span

/-- A character of a key without quotes. -/
def isBareChar (c : Char) : Bool := c.isAlphanum || c == '-' || c == '_'

/-- One part of a key. -/
def keyPart : Reader Key := do
  let (name, span) ← spanned fun place =>
    match place with
    | '"' :: _ => basicString place
    | '\'' :: _ => literalString place
    | _ => takeWhile1 isBareChar place
  return ⟨String.ofList name, span⟩

/-- How deep keys and containers may go. -/
def maxDepth : Nat := 80

/-- A key in one or more parts with dots between them. -/
def dottedKey : Reader (List Key) :=
  checked
    (label .key (separated1 (do spaces; let part ← keyPart; spaces; return part) (char '.')))
    fun parts => if parts.length < maxDepth then .ok parts else .error (some .tooDeep)

end HomeConsole.Toml
