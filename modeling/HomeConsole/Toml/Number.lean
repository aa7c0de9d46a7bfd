import HomeConsole.Decimal.Shortest
import HomeConsole.Toml.Text

/-!
# Numbers and dates

Integers of 64 bits in four bases, doubles, and dates and times. Of a date only the form matters
here, since no setting is one.
-/

namespace HomeConsole.Toml

open Reader

/-! ## Integers -/

/-- Digits, with single underscores between them. -/
def moreDigits (isDigit : Char → Bool) : Reader Unit := do
  let _ ← many <| orElse (do let _ ← satisfy isDigit) do
    char '_'
    let _ ← expecting [.described "digit"] (commit (satisfy isDigit))

/-- A sign. -/
def sign : Reader Char := satisfy fun c => c == '+' || c == '-'

/-- The text of a decimal integer. A leading zero stands alone. -/
def decimalText : Reader (List Char) := label .integer <| recognized do
  let _ ← optional sign
  orElse
    (do let _ ← satisfy fun c => c.isDigit && c != '0'; moreDigits Char.isDigit)
    (do let _ ← satisfy Char.isDigit)

/-- The value of digits in a base. -/
def digitsValue (base : Nat) (text : List Char) : Nat :=
  (text.filter (· != '_')).foldl (fun n c => n * base + hexNumber [c]) 0

/-- An integer that fits into 64 bits, from its sign and its digits. -/
def signed (negative : Bool) (magnitude : Nat) : Except (Option Cause) Int :=
  if negative then
    if magnitude ≤ Nat.pow 2 63 then .ok (-magnitude) else .error (some .tooSmall)
  else if magnitude < Nat.pow 2 63 then .ok magnitude
  else .error (some .tooLarge)

/-- An integer behind a mark for its base. -/
def markedInteger (part : Construct) (mark : List Char) (base : Nat) (isDigit : Char → Bool) :
    Reader Int :=
  commit <| checked
    (label part do
      literal mark
      recognized <| commit do
        let _ ← satisfy isDigit
        moreDigits isDigit)
    fun text => signed false (digitsValue base text)

/-- The value of a decimal integer. -/
def decimalValue : List Char → Except (Option Cause) Int
  | '-' :: digits => signed true (digitsValue 10 digits)
  | '+' :: digits => signed false (digitsValue 10 digits)
  | digits => signed false (digitsValue 10 digits)

/-- A decimal integer. One that does not fit is refused for good, at its beginning. -/
def decimalInteger : Reader Int := do
  let start ← here
  let text ← decimalText
  match decimalValue text with
  | .ok n => return n
  | .error cause => fun _ => .error { place := start, final := true, cause }

/-- An integer in any base. -/
def integer : Reader Int := fun place =>
  match place with
  | '0' :: 'x' :: _ => markedInteger .hexInteger ['0', 'x'] 16 isHexDigit place
  | '0' :: 'o' :: _ =>
    markedInteger .octalInteger ['0', 'o'] 8 (fun c => '0' ≤ c && c ≤ '7') place
  | '0' :: 'b' :: _ =>
    markedInteger .binaryInteger ['0', 'b'] 2 (fun c => c == '0' || c == '1') place
  | _ => decimalInteger place

/-! ## Doubles -/

/-- Digits that may begin with zeros. -/
def anyDigits : Reader Unit := do
  let _ ← satisfy Char.isDigit
  moreDigits Char.isDigit

/-- An exponent. -/
def exponent : Reader Unit := do
  let _ ← satisfy fun c => c == 'e' || c == 'E'
  let _ ← optional sign
  commit anyDigits

/-- A point and the digits behind it. -/
def fraction : Reader Unit := do
  char '.'
  expecting [.described "digit"] (commit anyDigits)

/-- The text of a finite double: an integer with a fraction, an exponent or both. -/
def finiteText : Reader (List Char) := recognized do
  let _ ← decimalText
  orElse exponent do
    fraction
    let _ ← optional exponent

/-- A decimal `digits * 10 ^ exponent` as a double, to the nearest. -/
def toDouble (digits : Nat) (exponent : Int) : Float :=
  let point := (Decimal.width digits : Int) + exponent
  if digits = 0 ∨ point < -400 then 0.0
  else if 400 < point then 1.0 / 0.0
  else Float.ofScientific digits (exponent < 0) exponent.natAbs

/-- The double that a text without a sign stands for. -/
def magnitude (text : List Char) : Float :=
  let text := text.filter (· != '_')
  let isMark (c : Char) : Bool := c == 'e' || c == 'E'
  let number := text.takeWhile (! isMark ·)
  let power : Int :=
    match (text.dropWhile (! isMark ·)).drop 1 with
    | '-' :: digits => -(digitsValue 10 digits)
    | '+' :: digits => digitsValue 10 digits
    | digits => digitsValue 10 digits
  let whole := number.takeWhile (· != '.')
  let part := (number.dropWhile (· != '.')).drop 1
  toDouble (digitsValue 10 (whole ++ part)) (power - part.length)

/-- The double that a text with or without a sign stands for. -/
def doubleValue : List Char → Float
  | '-' :: text => -(magnitude text)
  | '+' :: text => magnitude text
  | text => magnitude text

/-- A finite double. One beyond the largest is refused for good, at its beginning. -/
def finite : Reader Float := do
  let start ← here
  let text ← finiteText
  let f := doubleValue text
  if f.isInf && f > 0.0 then fun _ => .error { place := start, final := true } else return f

/-- Infinity. -/
def infinity : Reader Float := do
  literal ['i', 'n', 'f']
  return 1.0 / 0.0

/-- What is no number. -/
def notANumber : Reader Float := do
  literal ['n', 'a', 'n']
  return 0.0 / 0.0

/-- A double, finite or not. -/
def float : Reader Float := label .float <| orElse finite do
  let mark ← optional sign
  let f ← orElse infinity notANumber
  return if mark = some '-' then -f else f

/-! ## Dates and times -/

/-- A number of two digits between two bounds. -/
def twoDigits (least most : Nat) : Reader Nat :=
  checked (takeBetween 2 2 Char.isDigit) fun digits =>
    let n := digitsValue 10 digits
    if least ≤ n ∧ n ≤ most then .ok n else .error (some .outOfRange)

/-- How many days a month has. -/
def daysIn (year month : Nat) : Nat :=
  if month = 2 then if year % 4 = 0 ∧ (year % 100 ≠ 0 ∨ year % 400 = 0) then 29 else 28
  else if month = 4 ∨ month = 6 ∨ month = 9 ∨ month = 11 then 30
  else 31

/-- A date. -/
def date : Reader Unit := do
  let year ← takeBetween 4 4 Char.isDigit
  char '-'
  let month ← commit (twoDigits 1 12)
  commit (char '-')
  let start ← here
  let day ← commit (twoDigits 1 31)
  if daysIn (digitsValue 10 year) month < day then commit (refuse start .outOfRange)

/-- A time of day. -/
def timeOfDay : Reader Unit := do
  let _ ← twoDigits 0 23
  char ':'
  commit do
    let _ ← twoDigits 0 59
    char ':'
    let _ ← twoDigits 0 60
    let _ ← optional do
      char '.'
      takeWhile1 Char.isDigit

/-- The distance of a time from the common one. -/
def timeOffset : Reader Unit := label .timeOffset <|
  orElse (do let _ ← satisfy fun c => c == 'Z' || c == 'z') do
    let _ ← sign
    commit do
      let _ ← twoDigits 0 23
      char ':'
      let _ ← twoDigits 0 59

/-- A date, a time, or both. -/
def dateTime : Reader Unit :=
  orElse
    (label .dateTime do
      date
      let _ ← optional do
        let _ ← satisfy fun c => c == 'T' || c == 't' || c == ' '
        timeOfDay
        let _ ← optional timeOffset)
    (label .time timeOfDay)

end HomeConsole.Toml
