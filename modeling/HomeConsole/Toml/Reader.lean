/-!
# Readers

A reader takes something off the front of a text or fails. A failure knows where it stands and what
was asked for there. A soft one lets another reader try the same text; a final one ends the reading.
A place in a text is the text behind it, so going back is using the old text again.
-/

namespace HomeConsole.Toml

/-- A place in a text: what comes after it. -/
abbrev Place := List Char

/-- The parts of a settings file that a failure names. -/
inductive Construct where
  | key
  | tableHeader
  | basicString
  | literalString
  | multilineBasicString
  | multilineLiteralString
  | escapeSequence
  | shortCode
  | longCode
  | value
  | integer
  | hexInteger
  | octalInteger
  | binaryInteger
  | float
  | dateTime
  | time
  | timeOffset
  | array
  | inlineTable
deriving DecidableEq

/-- The name of a part. -/
def Construct.name : Construct → String
  | key => "key"
  | tableHeader => "table header"
  | basicString => "basic string"
  | literalString => "literal string"
  | multilineBasicString => "multiline basic string"
  | multilineLiteralString => "multiline literal string"
  | escapeSequence => "escape sequence"
  | shortCode => "unicode 4-digit hex code"
  | longCode => "unicode 8-digit hex code"
  | value => "string"
  | integer => "integer"
  | hexInteger => "hexadecimal integer"
  | octalInteger => "octal integer"
  | binaryInteger => "binary integer"
  | float => "floating-point number"
  | dateTime => "date-time"
  | time => "time"
  | timeOffset => "time offset"
  | array => "array"
  | inlineTable => "inline table"

/-- What would have been right at a place. -/
inductive Expected where
  | mark (text : String)
  | newline
  | described (text : String)
deriving DecidableEq

/-- How an expectation is shown. -/
def Expected.text : Expected → String
  | mark text => "`" ++ text ++ "`"
  | newline => "newline"
  | described text => text

/-- Why something well-formed is refused. -/
inductive Cause where
  /-- A key is bound twice; the table is given where it is known. -/
  | duplicateKey (key : String) (table : Option (List String))
  /-- A dotted key goes on below a value that is no table. -/
  | extendsValue (path : List String) (kind : String)
  | outOfRange
  | tooDeep
  | tooLarge
  | tooSmall
deriving DecidableEq

/-- The wording of a cause. -/
def Cause.message : Cause → String
  | duplicateKey key none => "duplicate key `" ++ key ++ "`"
  | duplicateKey key (some []) => "duplicate key `" ++ key ++ "` in document root"
  | duplicateKey key (some (first :: more)) =>
    "duplicate key `" ++ key ++ "` in table `" ++ ".".intercalate (first :: more) ++ "`"
  | extendsValue path kind =>
    "dotted key `" ++ ".".intercalate path ++ "` attempted to extend non-table type (" ++ kind ++ ")"
  | outOfRange => "value is out of range"
  | tooDeep => "recursion limit exceeded"
  | tooLarge => "number too large to fit in target type"
  | tooSmall => "number too small to fit in target type"

/-- A failed reading. -/
structure Failure where
  place : Place
  final : Bool := false
  /-- The innermost part that was being read. -/
  label : Option Construct := none
  expected : List Expected := []
  cause : Option Cause := none

/-- The wording of a failure: the part, what was expected, the cause, each on its own line. -/
def Failure.message (failure : Failure) : String :=
  let part := failure.label.toList.map fun label => "invalid " ++ label.name
  let expected :=
    if failure.expected.isEmpty then []
    else ["expected " ++ ", ".intercalate (failure.expected.map Expected.text)]
  let cause := failure.cause.toList.map Cause.message
  "\n".intercalate (part ++ expected ++ cause)

/-- A reader of things of a type. -/
def Reader (α : Type) := Place → Except Failure (α × Place)

namespace Reader

variable {α β : Type}

instance : Monad Reader where
  pure a := fun place => .ok (a, place)
  bind reader next := fun place =>
    match reader place with
    | .error failure => .error failure
    | .ok (a, rest) => next a rest

/-- Fails softly. -/
def fail : Reader α := fun place => .error { place }

/-- Fails softly for a cause, at a place. -/
def refuse (place : Place) (cause : Cause) : Reader α := fun _ =>
  .error { place, cause := some cause }

/-- The place that has been reached. -/
def here : Reader Place := fun place => .ok (place, place)

/-- The next character, if it satisfies a test. -/
def satisfy (p : Char → Bool) : Reader Char
  | [] => .error { place := [] }
  | c :: rest => if p c then .ok (c, rest) else .error { place := c :: rest }

/-- One given character. -/
def char (c : Char) : Reader Unit := fun place =>
  match satisfy (· == c) place with
  | .error failure => .error failure
  | .ok (_, rest) => .ok ((), rest)

/-- A given text. -/
def literal (text : List Char) : Reader Unit := fun place =>
  if text.isPrefixOf place then .ok ((), place.drop text.length) else .error { place }

/-- All characters that satisfy a test, from here on. -/
def takeWhile (p : Char → Bool) : Reader (List Char) := fun place =>
  .ok (place.takeWhile p, place.dropWhile p)

/-- All characters that satisfy a test, at least one. -/
def takeWhile1 (p : Char → Bool) : Reader (List Char) := fun place =>
  match place.takeWhile p with
  | [] => .error { place }
  | taken => .ok (taken, place.dropWhile p)

/-- From `least` to `most` characters that satisfy a test. -/
def takeBetween (least most : Nat) (p : Char → Bool) : Reader (List Char) := fun place =>
  let taken := (place.take most).takeWhile p
  if taken.length < least then .error { place } else .ok (taken, place.drop taken.length)

/-- The second reader where the first fails softly. -/
def orElse (first second : Reader α) : Reader α := fun place =>
  match first place with
  | .error failure => if failure.final then .error failure else second place
  | result => result

/-- Nothing where the reader fails softly. -/
def optional (reader : Reader α) : Reader (Option α) := fun place =>
  match reader place with
  | .error failure => if failure.final then .error failure else .ok (none, place)
  | .ok (a, rest) => .ok (some a, rest)

/-- Makes failures final. -/
def commit (reader : Reader α) : Reader α := fun place =>
  (reader place).mapError fun failure => { failure with final := true }

/-- Names the part that is being read in failures that name none yet. -/
def label (part : Construct) (reader : Reader α) : Reader α := fun place =>
  (reader place).mapError fun failure => { failure with label := failure.label <|> some part }

/-- Adds to failures what would have been right. -/
def expecting (expected : List Expected) (reader : Reader α) : Reader α := fun place =>
  (reader place).mapError fun failure =>
    { failure with expected := failure.expected ++ expected }

/-- Reads without moving on. -/
def lookahead (reader : Reader α) : Reader Unit := fun place =>
  match reader place with
  | .error failure => .error failure
  | .ok _ => .ok ((), place)

/-- Puts what was read to a test, and fails softly at its beginning if it is refused. -/
def checked (reader : Reader α) (test : α → Except (Option Cause) β) : Reader β := fun place =>
  match reader place with
  | .error failure => .error failure
  | .ok (a, rest) =>
    match test a with
    | .error cause => .error { place, cause }
    | .ok b => .ok (b, rest)

/-- Reads as often as it succeeds, with a bound on how often. -/
def manyUpTo (reader : Reader α) (done : List α) : Nat → Reader (List α)
  | 0, place => .ok (done.reverse, place)
  | bound + 1, place =>
    match reader place with
    | .error failure => if failure.final then .error failure else .ok (done.reverse, place)
    | .ok (a, rest) => manyUpTo reader (a :: done) bound rest

/-- Reads as often as it succeeds. Every success takes a character, so the text bounds how often. -/
def many (reader : Reader α) : Reader (List α) := fun place =>
  manyUpTo reader [] place.length place

/-- Reads things with a separator between them. A separator with nothing behind it is left. -/
def separated1 (reader : Reader α) (separator : Reader Unit) : Reader (List α) := do
  let first ← reader
  let more ← many (do separator; reader)
  return first :: more

/-- Reads things with a separator between them, or nothing. -/
def separated (reader : Reader α) (separator : Reader Unit) : Reader (List α) := do
  return (← optional (separated1 reader separator)).getD []

end Reader

/-- A piece of a text: the place where it starts and the place where it stops. -/
structure Span where
  start : Place
  stop : Place

/-- The characters of a piece. -/
def Span.text (span : Span) : List Char :=
  span.start.take (span.start.length - span.stop.length)

/-- Keeps the piece that was read. -/
def Reader.spanned {α : Type} (reader : Reader α) : Reader (α × Span) := fun place =>
  match reader place with
  | .error failure => .error failure
  | .ok (a, rest) => .ok ((a, ⟨place, rest⟩), rest)

/-- Gives the characters that were read. -/
def Reader.recognized {α : Type} (reader : Reader α) : Reader (List Char) := do
  return (← reader.spanned).2.text

end HomeConsole.Toml
