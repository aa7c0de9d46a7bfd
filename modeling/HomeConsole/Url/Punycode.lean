/-!
# Labels beyond ASCII

A label with other characters is written in letters, digits and hyphens: first its own such
characters, then, in ascending order, what to insert where, as numbers of variable length. Each
number is the distance from the insertion before, and the thresholds between its digits adapt to
the distances seen.
-/

namespace HomeConsole.Punycode

/-- The digit for a value below 36: letters first, then decimal digits. -/
def digit (n : Nat) : Char := Char.ofNat (if n < 26 then 'a'.toNat + n else '0'.toNat + (n - 26))

/-- The value of a digit. -/
def value? (c : Char) : Option Nat :=
  if 'a' ≤ c ∧ c ≤ 'z' then some (c.toNat - 'a'.toNat)
  else if c.isDigit then some (c.toNat - '0'.toNat + 26)
  else none

/-- The threshold of the digit at a place, counted in steps of 36. -/
def threshold (place bias : Nat) : Nat := min 26 (max 1 (place - bias))

theorem threshold_pos (place bias : Nat) : 1 ≤ threshold place bias := by
  unfold threshold; omega

/-- Scales a distance down, and counts the steps. -/
def scale (distance steps : Nat) : Nat × Nat :=
  if 455 < distance then scale (distance / 35) (steps + 36) else (distance, steps)
termination_by distance
decreasing_by exact Nat.div_lt_self (by omega) (by omega)

/-- The bias after an insertion at a distance, with `count` characters in place. -/
def adapt (distance count : Nat) (first : Bool) : Nat :=
  let distance := if first then distance / 700 else distance / 2
  let (distance, steps) := scale (distance + distance / count) 0
  steps + 36 * distance / (distance + 38)

/-- The digits of a distance. -/
def writeNumber (bias place n : Nat) : List Char :=
  let t := threshold place bias
  if n < t then [digit n]
  else digit (t + (n - t) % (36 - t)) :: writeNumber bias (place + 36) ((n - t) / (36 - t))
termination_by n
decreasing_by
  have := threshold_pos place bias
  have : (n - threshold place bias) / (36 - threshold place bias) ≤ n - threshold place bias :=
    Nat.div_le_self _ _
  omega

/-- How far the writing has come. -/
structure Progress where
  written : List Char
  distance : Nat
  bias : Nat
  /-- How many characters are in place. -/
  placed : Nat

/-- Passes one character of the label while the characters with a code are inserted. -/
def pass (basic code : Nat) (p : Progress) (c : Char) : Progress :=
  if c.toNat < code then { p with distance := p.distance + 1 }
  else if c.toNat = code then
    { written := p.written ++ writeNumber p.bias 36 p.distance
      distance := 0
      bias := adapt p.distance (p.placed + 1) (p.placed == basic)
      placed := p.placed + 1 }
  else p

/-- Inserts the characters with each of the codes, which ascend from `next`. -/
def insertCodes (label : List Char) (basic : Nat) : List Nat → Nat → Progress → Progress
  | [], _, p => p
  | code :: codes, next, p =>
    let p := { p with distance := p.distance + (code - next) * (p.placed + 1) }
    let p := label.foldl (pass basic code) p
    insertCodes label basic codes (code + 1) { p with distance := p.distance + 1 }

/-- A label in letters, digits and hyphens. -/
def encode (label : List Char) : List Char :=
  let basic := label.filter (·.toNat < 0x80)
  let codes := ((label.map Char.toNat).filter (0x80 ≤ ·)).mergeSort.eraseDups
  let front := if basic.isEmpty then [] else basic ++ ['-']
  (insertCodes label basic.length codes 0x80 ⟨front, 0, 72, basic.length⟩).written

/-- Reads a number: its value and what comes after it. -/
def readNumber (bias : Nat) : Nat → Nat → Nat → List Char → Option (Nat × List Char)
  | _, _, _, [] => none
  | place, weight, n, c :: cs =>
    match value? c with
    | none => none
    | some d =>
      let n := n + d * weight
      if d < threshold place bias then some (n, cs)
      else readNumber bias (place + 36) (weight * (36 - threshold place bias)) n cs

/-- Inserts characters as the numbers say, with a bound on how many. -/
def readCodes (basic : Nat) : Nat → List Char → Nat → Nat → Nat → List Char → Option (List Char)
  | 0, _, _, _, _, _ => none
  | bound + 1, digits, code, index, bias, done =>
    match digits with
    | [] => some done
    | digits =>
      match readNumber bias 36 1 0 digits with
      | none => none
      | some (n, rest) =>
        let count := done.length + 1
        let index := index + n
        let code := code + index / count
        let place := index % count
        if 0x110000 ≤ code ∨ (0xD800 ≤ code ∧ code < 0xE000) then none
        else
          readCodes basic bound rest code (place + 1) (adapt n count (done.length == basic))
            (done.take place ++ Char.ofNat code :: done.drop place)

/-- The label behind its letters, digits and hyphens. -/
def decode? (text : List Char) : Option (List Char) :=
  let tail := (text.reverse.takeWhile (· != '-')).reverse
  let front := text.take (text.length - tail.length - 1)
  if text.contains '-' ∧ front = [] then none
  else readCodes front.length (tail.length + 1) tail 0x80 0 72 front

end HomeConsole.Punycode
