import HomeConsole.Json.Basic
import HomeConsole.Json.Fault

/-!
# Reading JSON texts

`parse` reads a whole text as one value, `parseList` as a list of values; both give the first fault
otherwise. A list is read by the same functions either way. Integers that fit into 64 bits stay
integers; every other number becomes the double that nineteen or twenty leading digits and one
scaling by a power of ten give.
-/

namespace HomeConsole.Json

/-- The result of reading something off the front of a text. -/
abbrev Reading (α : Type) := Except Fault (α × List Char)

/-- Blanks between tokens. -/
def isSpace (c : Char) : Bool := c == ' ' || c == '\n' || c == '\t' || c == '\r'

/-- A text without the blanks at its front. -/
def skipSpace (cs : List Char) : List Char := cs.dropWhile isSpace

/-- The value of a digit. -/
def digit (c : Char) : Nat := c.toNat - '0'.toNat

/-! ## Numbers -/

/-- The largest significand that is kept exactly. -/
def maxSignificand : Nat := Nat.pow 2 64 - 1

/-- Takes digits into a significand as long as it stays exact. Gives the significand, how many
digits were taken, and the rest. -/
def absorb (significand taken : Nat) : List Char → Nat × Nat × List Char
  | [] => (significand, taken, [])
  | c :: cs =>
    if c.isDigit ∧ significand * 10 + digit c ≤ maxSignificand then
      absorb (significand * 10 + digit c) (taken + 1) cs
    else (significand, taken, c :: cs)

/-- Whether a text begins with a digit. -/
def startsWithDigit : List Char → Bool
  | c :: _ => c.isDigit
  | [] => false

/-- The power of ten with an exponent up to 308, as a double. -/
def powerOfTen (n : Nat) : Float := Float.ofScientific 1 false n

/-- A magnitude scaled by a power of ten: one multiplication or division, after steps of 308 for
smaller numbers. `none` when it is too large. -/
def scale? (f : Float) (exponent : Int) : Option Float :=
  if exponent > 308 then
    if f == 0.0 then some f else none
  else if 0 ≤ exponent then
    let scaled := f * powerOfTen exponent.toNat
    if scaled.isInf then none else some scaled
  else if -308 ≤ exponent then some (f / powerOfTen exponent.natAbs)
  else if f == 0.0 then some f
  else scale? (f / powerOfTen 308) (exponent + 308)
termination_by exponent.natAbs
decreasing_by omega

/-- A number from its parts. -/
def fromParts (positive : Bool) (significand : Nat) (exponent : Int) (rest : List Char) :
    Reading Number :=
  match scale? significand.toUInt64.toFloat exponent with
  | none => .error (.before .numberTooLarge rest)
  | some f => .ok (.double (if positive then f else -f).toBits, rest)

/-- The largest exponent that is kept. -/
def maxExponent : Nat := Nat.pow 2 31 - 1

/-- Takes the digits of an exponent. The first component is `none` when it grows too large; the
digit at which it does is taken too. -/
def absorbExponent (exponent : Nat) : List Char → Option Nat × List Char
  | [] => (some exponent, [])
  | c :: cs =>
    if c.isDigit then
      if exponent * 10 + digit c ≤ maxExponent then absorbExponent (exponent * 10 + digit c) cs
      else (none, cs)
    else (some exponent, c :: cs)

/-- The rest of a number behind the mark of its exponent. -/
def exponentPart (positive : Bool) (significand : Nat) (start : Int) (cs : List Char) :
    Reading Number :=
  let (up, cs) : Bool × List Char :=
    match cs with
    | '+' :: cs => (true, cs)
    | '-' :: cs => (false, cs)
    | cs => (true, cs)
  match cs with
  | [] => .error (.before .endInValue [])
  | c :: cs' =>
    if c.isDigit then
      match absorbExponent (digit c) cs' with
      | (some e, rest) =>
        fromParts positive significand (if up then start + e else start - e) rest
      | (none, rest) =>
        if significand ≠ 0 ∧ up then .error (.before .numberTooLarge rest)
        else
          .ok (.double (if positive then (0.0 : Float) else -0.0).toBits,
            rest.dropWhile Char.isDigit)
    else .error (.at_ .badNumber cs)

/-- The rest of a number behind its digits: perhaps an exponent. -/
def afterDigits (positive : Bool) (significand : Nat) (exponent : Int) : List Char → Reading Number
  | 'e' :: cs => exponentPart positive significand exponent cs
  | 'E' :: cs => exponentPart positive significand exponent cs
  | cs => fromParts positive significand exponent cs

/-- The rest of a number behind its point. -/
def fractionPart (positive : Bool) (significand : Nat) (start : Int) (cs : List Char) :
    Reading Number :=
  let (significand, taken, rest) := absorb significand 0 cs
  if startsWithDigit rest then
    afterDigits positive significand (start - taken) (rest.dropWhile Char.isDigit)
  else if taken = 0 then
    .error (if rest.isEmpty then .before .endInValue [] else .at_ .badNumber rest)
  else afterDigits positive significand (start - taken) rest

/-- The rest of a number behind an integer that is exact. -/
def afterInteger (positive : Bool) (significand : Nat) : List Char → Reading Number
  | '.' :: cs => fractionPart positive significand 0 cs
  | 'e' :: cs => exponentPart positive significand 0 cs
  | 'E' :: cs => exponentPart positive significand 0 cs
  | cs =>
    if positive then .ok (.integer significand, cs)
    else if 0 < significand ∧ significand ≤ Nat.pow 2 63 then .ok (.integer (-significand), cs)
    else .ok (.double (-significand.toUInt64.toFloat).toBits, cs)

/-- The rest of a number whose integer part has grown too long. -/
def longInteger (positive : Bool) (significand : Nat) (cs : List Char) : Reading Number :=
  let dropped : Int := (cs.takeWhile Char.isDigit).length
  match cs.dropWhile Char.isDigit with
  | '.' :: cs => fractionPart positive significand dropped cs
  | cs => afterDigits positive significand dropped cs

/-- A number behind its sign. -/
def numeral (positive : Bool) : List Char → Reading Number
  | [] => .error (.before .endInValue [])
  | '0' :: cs =>
    if startsWithDigit cs then .error (.at_ .badNumber cs) else afterInteger positive 0 cs
  | c :: cs =>
    if c.isDigit then
      let (significand, _, rest) := absorb (digit c) 1 cs
      if startsWithDigit rest then longInteger positive significand rest
      else afterInteger positive significand rest
    else .error (.at_ .badNumber (c :: cs))

/-! ## Strings -/

/-- The value of a hexadecimal digit. -/
def hexValue? (c : Char) : Option Nat :=
  if c.isDigit then some (digit c)
  else if 'a' ≤ c ∧ c ≤ 'f' then some (c.toNat - 'a'.toNat + 10)
  else if 'A' ≤ c ∧ c ≤ 'F' then some (c.toNat - 'A'.toNat + 10)
  else none

/-- Four hexadecimal digits. -/
def fourDigits (cs : List Char) : Reading Nat :=
  if Utf8.size (cs.take 4) < 4 then .error (.before .endInString [])
  else
    match cs with
    | a :: b :: c :: d :: rest =>
      match hexValue? a, hexValue? b, hexValue? c, hexValue? d with
      | some a, some b, some c, some d => .ok (((a * 16 + b) * 16 + c) * 16 + d, rest)
      | _, _, _, _ => .error ⟨.badEscape, Utf8.size cs - 4⟩
    | _ => .error ⟨.badEscape, Utf8.size cs - 4⟩

/-- The second half of a pair of surrogates, whose first half was `high`. -/
def lowSurrogate (high : Nat) : List Char → Reading Char
  | [] => .error (.before .endInString [])
  | '\\' :: [] => .error (.before .endInString [])
  | '\\' :: 'u' :: cs =>
    match fourDigits cs with
    | .error fault => .error fault
    | .ok (low, rest) =>
      if low < 0xDC00 ∨ 0xDFFF < low then .error (.before .loneSurrogate rest)
      else .ok (Char.ofNat (0x10000 + (high - 0xD800) * 0x400 + (low - 0xDC00)), rest)
  | '\\' :: cs => .error (.at_ .brokenPair cs)
  | cs => .error (.at_ .brokenPair cs)

/-- A code point in hexadecimal, or a pair of surrogates. -/
def unicodeEscape (cs : List Char) : Reading Char :=
  match fourDigits cs with
  | .error fault => .error fault
  | .ok (n, rest) =>
    if 0xDC00 ≤ n ∧ n ≤ 0xDFFF then .error (.before .loneSurrogate rest)
    else if n < 0xD800 ∨ 0xDBFF < n then .ok (Char.ofNat n, rest)
    else lowSurrogate n rest

/-- The rest of an escape behind its backslash. -/
def escaped : List Char → Reading Char
  | [] => .error (.before .endInString [])
  | '"' :: cs => .ok ('"', cs)
  | '\\' :: cs => .ok ('\\', cs)
  | '/' :: cs => .ok ('/', cs)
  | 'b' :: cs => .ok ('\x08', cs)
  | 'f' :: cs => .ok ('\x0c', cs)
  | 'n' :: cs => .ok ('\n', cs)
  | 'r' :: cs => .ok ('\r', cs)
  | 't' :: cs => .ok ('\t', cs)
  | 'u' :: cs => unicodeEscape cs
  | cs => .error (.at_ .badEscape cs)

theorem fourDigits_length {cs rest : List Char} {n : Nat} (h : fourDigits cs = .ok (n, rest)) :
    rest.length < cs.length := by
  unfold fourDigits at h
  split at h
  · simp at h
  · split at h
    · split at h
      · simp only [Except.ok.injEq, Prod.mk.injEq] at h
        simp [← h.2]; omega
      · simp at h
    · simp at h

theorem lowSurrogate_length {high : Nat} {cs rest : List Char} {c : Char}
    (h : lowSurrogate high cs = .ok (c, rest)) : rest.length < cs.length := by
  unfold lowSurrogate at h
  split at h <;> try simp at h
  split at h
  · simp at h
  · rename_i hd
    split at h
    · simp at h
    · simp only [Except.ok.injEq, Prod.mk.injEq] at h
      have := fourDigits_length hd
      simp [← h.2]; omega

theorem unicodeEscape_length {cs rest : List Char} {c : Char}
    (h : unicodeEscape cs = .ok (c, rest)) : rest.length < cs.length := by
  unfold unicodeEscape at h
  split at h
  · simp at h
  · rename_i hd
    have := fourDigits_length hd
    split at h
    · simp at h
    · split at h
      · simp only [Except.ok.injEq, Prod.mk.injEq] at h
        simp [← h.2]; omega
      · have := lowSurrogate_length h
        omega

theorem escaped_length {cs rest : List Char} {c : Char} (h : escaped cs = .ok (c, rest)) :
    rest.length < cs.length := by
  unfold escaped at h
  split at h
  case h_10 => exact Nat.lt_succ_of_lt (unicodeEscape_length h)
  all_goals simp at h
  all_goals simp [← h.2]

/-- The rest of a string behind its opening quote; `done` holds, in reverse, what was read. -/
def stringRest (done : List Char) : List Char → Reading String
  | [] => .error (.before .endInString [])
  | c :: cs =>
    if c = '"' then .ok (String.ofList done.reverse, cs)
    else if c = '\\' then
      match h : escaped cs with
      | .error fault => .error fault
      | .ok (c, rest) =>
        have := escaped_length h
        stringRest (c :: done) rest
    else if c.toNat < 0x20 then .error (.before .control cs)
    else stringRest (c :: done) cs
termination_by cs => cs.length
decreasing_by all_goals simp; try omega

/-! ## Values -/

/-- The rest of a word behind its first letter. -/
def word (value : Json) : List Char → List Char → Reading Json
  | [], rest => .ok (value, rest)
  | _ :: _, [] => .error (.before .endInValue [])
  | c :: expected, c' :: rest =>
    if c = c' then word value expected rest else .error (.at_ .expectedIdent (c' :: rest))

/-- The items of a list behind its opening bracket, each read by `item`; `done` holds, in reverse,
those already read. Every item takes a character at least, so that the length of the text bounds
their number. -/
def listRest (item : List Char → Reading Json) (done : List Json) (first : Bool) :
    Nat → List Char → Reading (List Json)
  | 0, cs => .error (.before .endInList cs)
  | fuel + 1, cs =>
    match skipSpace cs with
    | [] => .error (.before .endInList [])
    | ']' :: rest => .ok (done.reverse, rest)
    | c :: rest =>
      if first then
        match item (c :: rest) with
        | .error fault => .error fault
        | .ok (value, rest) => listRest item (value :: done) false fuel rest
      else if c = ',' then
        match skipSpace rest with
        | [] => .error (.before .endInValue [])
        | ']' :: rest => .error (.at_ .trailingComma (']' :: rest))
        | rest =>
          match item rest with
          | .error fault => .error fault
          | .ok (value, rest) => listRest item (value :: done) false fuel rest
      else .error (.at_ .expectedListEnd (c :: rest))

/-- A member of an object behind the quote that opens its name. -/
def member (item : List Char → Reading Json) (cs : List Char) : Reading (String × Json) :=
  match stringRest [] cs with
  | .error fault => .error fault
  | .ok (name, rest) =>
    match skipSpace rest with
    | [] => .error (.before .endInObject [])
    | ':' :: rest =>
      match item rest with
      | .error fault => .error fault
      | .ok (value, rest) => .ok ((name, value), rest)
    | rest => .error (.at_ .expectedColon rest)

/-- The members of an object behind its opening brace; `done` holds those already read, sorted. -/
def objectRest (item : List Char → Reading Json) (done : List (String × Json)) (first : Bool) :
    Nat → List Char → Reading (List (String × Json))
  | 0, cs => .error (.before .endInObject cs)
  | fuel + 1, cs =>
    match skipSpace cs with
    | [] => .error (.before .endInObject [])
    | '\x7d' :: rest => .ok (done, rest)
    | c :: rest =>
      if first then
        if c = '"' then
          match member item rest with
          | .error fault => .error fault
          | .ok ((name, value), rest) =>
            objectRest item (insertMember name value done) false fuel rest
        else .error (.at_ .expectedName (c :: rest))
      else if c = ',' then
        match skipSpace rest with
        | [] => .error (.before .endInValue [])
        | '"' :: rest =>
          match member item rest with
          | .error fault => .error fault
          | .ok ((name, value), rest) =>
            objectRest item (insertMember name value done) false fuel rest
        | '\x7d' :: rest => .error (.at_ .trailingComma ('\x7d' :: rest))
        | rest => .error (.at_ .expectedName rest)
      else .error (.at_ .expectedObjectEnd (c :: rest))

/-- A value in which containers may be nested fewer than `depth` deep. -/
def value : Nat → List Char → Reading Json
  | 0, cs => .error (.at_ .tooDeep cs)
  | depth + 1, cs =>
    match skipSpace cs with
    | [] => .error (.before .endInValue [])
    | 'n' :: rest => word .null ['u', 'l', 'l'] rest
    | 't' :: rest => word (.bool true) ['r', 'u', 'e'] rest
    | 'f' :: rest => word (.bool false) ['a', 'l', 's', 'e'] rest
    | '"' :: rest =>
      match stringRest [] rest with
      | .error fault => .error fault
      | .ok (s, rest) => .ok (.string s, rest)
    | '[' :: rest =>
      if depth = 0 then .error (.at_ .tooDeep ('[' :: rest))
      else
        match listRest (value depth) [] true (rest.length + 1) rest with
        | .error fault => .error fault
        | .ok (items, rest) => .ok (.array items, rest)
    | '\x7b' :: rest =>
      if depth = 0 then .error (.at_ .tooDeep ('\x7b' :: rest))
      else
        match objectRest (value depth) [] true (rest.length + 1) rest with
        | .error fault => .error fault
        | .ok (members, rest) => .ok (.object members, rest)
    | '-' :: rest =>
      match numeral false rest with
      | .error fault => .error fault
      | .ok (n, rest) => .ok (.number n, rest)
    | c :: rest =>
      if c.isDigit then
        match numeral true (c :: rest) with
        | .error fault => .error fault
        | .ok (n, rest) => .ok (.number n, rest)
      else .error (.at_ .expectedValue (c :: rest))

/-- How deep containers may be nested, and one more. -/
def maxDepth : Nat := 128

/-! ## Whole texts -/

/-- The end of a text: nothing but blanks may follow a value. -/
def finish {α : Type} : Reading α → Except Fault α
  | .error fault => .error fault
  | .ok (a, rest) =>
    match skipSpace rest with
    | [] => .ok a
    | rest => .error (.at_ .trailingText rest)

/-- A description of a value that is no list. -/
def describe : Json → String
  | .null => "null"
  | .bool b => "boolean `" ++ (if b then "true" else "false") ++ "`"
  | .number (.integer n) => "integer `" ++ toString n ++ "`"
  | .number n => "floating point `" ++ n.text ++ "`"
  | .string s => "string " ++ Quoted.encode s
  | .array _ => "sequence"
  | .object _ => "map"

/-- A list of values. A scalar in its place is read to its end first; an object is not. -/
def list (depth : Nat) (cs : List Char) : Reading (List Json) :=
  match skipSpace cs with
  | '[' :: rest =>
    if depth ≤ 1 then .error (.at_ .tooDeep ('[' :: rest))
    else listRest (value (depth - 1)) [] true (rest.length + 1) rest
  | '\x7b' :: rest => .error (.before (.notList (describe (.object []))) ('\x7b' :: rest))
  | rest =>
    match value depth rest with
    | .error fault => .error fault
    | .ok (v, rest) => .error (.before (.notList (describe v)) rest)

/-- Reads a text as one value. -/
def parseChars (cs : List Char) : Except Fault Json := finish (value maxDepth cs)

/-- Reads a text as a list of values. -/
def parseListChars (cs : List Char) : Except Fault (List Json) := finish (list maxDepth cs)

/-- Reads a text as one value, with the fault worded. -/
def parse (text : String) : Except String Json :=
  (parseChars text.toList).mapError (·.message text.toList)

/-- Reads a text as a list of values, with the fault worded. -/
def parseList (text : String) : Except String (List Json) :=
  (parseListChars text.toList).mapError (·.message text.toList)

end HomeConsole.Json
