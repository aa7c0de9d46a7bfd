import HomeConsole.Text.Utf8
import HomeConsole.Text.Quoted

/-!
# Faults in JSON texts

What is wrong with a text, and where. A place is stated by the number of bytes after it; lines and
columns are counted in bytes too, and only when the fault is shown.
-/

namespace HomeConsole.Json

/-- What is wrong with a text. -/
inductive Problem where
  | endInValue
  | endInList
  | endInObject
  | endInString
  | expectedValue
  | expectedIdent
  | expectedColon
  | expectedListEnd
  | expectedObjectEnd
  | expectedName
  | trailingComma
  | trailingText
  | badNumber
  | numberTooLarge
  | badEscape
  | loneSurrogate
  | brokenPair
  | control
  | tooDeep
  /-- A value of another kind where a list was asked for, described. -/
  | notList (found : String)
deriving Repr, DecidableEq

/-- The wording of a problem. -/
def Problem.message : Problem → String
  | endInValue => "EOF while parsing a value"
  | endInList => "EOF while parsing a list"
  | endInObject => "EOF while parsing an object"
  | endInString => "EOF while parsing a string"
  | expectedValue => "expected value"
  | expectedIdent => "expected ident"
  | expectedColon => "expected `:`"
  | expectedListEnd => "expected `,` or `]`"
  | expectedObjectEnd => "expected `,` or `\x7d`"
  | expectedName => "key must be a string"
  | trailingComma => "trailing comma"
  | trailingText => "trailing characters"
  | badNumber => "invalid number"
  | numberTooLarge => "number out of range"
  | badEscape => "invalid escape"
  | loneSurrogate => "lone leading surrogate in hex escape"
  | brokenPair => "unexpected end of hex escape"
  | control => "control character (\\u0000-\\u001F) found while parsing a string"
  | tooDeep => "recursion limit exceeded"
  | notList found => "invalid type: " ++ found ++ ", expected a sequence"

/-- A problem and how many bytes of the text come after its place. -/
structure Fault where
  problem : Problem
  left : Nat
deriving Repr, DecidableEq

namespace Fault

/-- A fault just before the rest of the text. -/
def before (problem : Problem) (rest : List Char) : Fault := ⟨problem, Utf8.size rest⟩

/-- A fault at the first byte of the rest of the text, or at its end. -/
def at_ (problem : Problem) (rest : List Char) : Fault := ⟨problem, Utf8.size rest - 1⟩

/-- The line and the column of a place `offset` bytes into a text. -/
def position (text : List Char) (offset : Nat) : Nat × Nat :=
  let seen := (Utf8.encode text).take offset
  let newlines := seen.count 10
  let column := (seen.reverse.takeWhile (· != 10)).length
  (newlines + 1, column)

/-- The wording of a fault in a text. -/
def message (fault : Fault) (text : List Char) : String :=
  let (line, column) := position text (Utf8.size text - fault.left)
  fault.problem.message ++ " at line " ++ toString line ++ " column " ++ toString column

end Fault

end HomeConsole.Json
