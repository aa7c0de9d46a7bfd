import HomeConsole.Text.Cluster.Class

/-!
# Clusters of a text

A text cut into extended grapheme clusters, the signs that a reader takes for one character each.
The cut is made by looking at one character and at a summary of those before it.
-/

namespace HomeConsole.Cluster

/-- How much of a conjunct of consonants has been read. -/
inductive Conjunct where
  | none
  | consonant
  | linked
deriving DecidableEq

/-- What matters of the characters before a place in a text. -/
structure Past where
  last : Class
  /-- The characters end in a picture, marks behind it, and perhaps a joiner. -/
  afterPicture : Bool
  /-- The characters end in an odd number of regional indicators. -/
  oddRegional : Bool
  conjunct : Conjunct

/-- The summary of one character. -/
def Past.start (c : Char) : Past :=
  let kind := Class.of c
  { last := kind
    afterPicture := kind == .picture
    oddRegional := kind == .regional
    conjunct := if conjunctConsonants.has c then .consonant else .none }

/-- The conjunct after one more character. -/
def Conjunct.next (conjunct : Conjunct) (kind : Class) (c : Char) : Conjunct :=
  if conjunctConsonants.has c then .consonant
  else if conjunctLinkers.has c then (if conjunct = .none then .none else .linked)
  else if (kind == .mark && c != '\u200C') || kind == .joiner then conjunct
  else .none

/-- The summary after one more character. -/
def Past.next (past : Past) (c : Char) : Past :=
  let kind := Class.of c
  { last := kind
    afterPicture := kind == .picture ||
      (past.afterPicture && past.last != .joiner && (kind == .mark || kind == .joiner))
    oddRegional := kind == .regional && !past.oddRegional
    conjunct := past.conjunct.next kind c }

/-- Whether the next character goes with those before it. -/
def Past.joins (past : Past) (c : Char) : Bool :=
  let kind := Class.of c
  match past.last, kind with
  | .cr, .lf => true
  | .cr, _ | .lf, _ | .control, _ => false
  | _, .cr | _, .lf | _, .control => false
  | _, .mark | _, .joiner | _, .spacing => true
  | .prepended, _ => true
  | .leading, .leading | .leading, .vowel | .leading, .leadingVowel | .leading, .syllable => true
  | .leadingVowel, .vowel | .leadingVowel, .trailing => true
  | .vowel, .vowel | .vowel, .trailing => true
  | .syllable, .trailing | .trailing, .trailing => true
  | .joiner, .picture =>
    past.afterPicture || (past.conjunct == .linked && conjunctConsonants.has c)
  | .regional, .regional => past.oddRegional
  | _, _ => past.conjunct == .linked && conjunctConsonants.has c

/-- The clusters of a text whose first characters, latest first, are a cluster so far. -/
def collect (past : Past) (current : List Char) : List Char → List (List Char)
  | [] => [current.reverse]
  | c :: cs =>
    if past.joins c then collect (past.next c) (c :: current) cs
    else current.reverse :: collect (Past.start c) [c] cs

end HomeConsole.Cluster

namespace HomeConsole

/-- The clusters of a text, in order. -/
def clusters : List Char → List (List Char)
  | [] => []
  | c :: cs => Cluster.collect (.start c) [c] cs

end HomeConsole
