import HomeConsole.Text.Emoji
import HomeConsole.Text.Marks
import HomeConsole.Text.Wide

/-!
# Columns of a text

How many columns of a terminal a character and a text take. The columns of a text are mostly the sum
over its characters; where neighbours are drawn as one sign (pictures, flags, ligatures) they differ.
A text is measured from its end, with a note of what the rest begins with.
-/

namespace HomeConsole

/-- Whether a number lies in one of a few ranges. -/
def within (ranges : List (Nat × Nat)) (n : Nat) : Bool := ranges.any fun r => r.1 ≤ n && n ≤ r.2

/-- Vowels and final consonants of Hangul, which join the consonant before them. -/
def isJamoTail (n : Nat) : Bool := within [(0x1160, 0x11FF), (0xD7B0, 0xD7C6), (0xD7CB, 0xD7FB)] n

/-- Signs that enclose or carry the characters around them. -/
def isCarried (n : Nat) : Bool :=
  within [(0x605, 0x605), (0x70F, 0x70F), (0x890, 0x891), (0x8E2, 0x8E2), (0xA8FA, 0xA8FA)] n

namespace Columns

/-- The columns of a character that is not a control. -/
def ofChar (c : Char) : Nat :=
  let n := c.toNat
  if n < 0xA0 then 1
  else if n = 0x115F ∨ n = 0x17A4 then 2
  else if n = 0x17D8 then 3
  else if n = 0x2D7F then 1
  else if ignorable.has c || marks.has c || isJamoTail n || isCarried n then 0
  else if wide.has c then 2
  else 1

/-- The columns of a character; a control has none of its own. -/
def ofChar? (c : Char) : Option Nat :=
  let n := c.toNat
  if n < 0x20 ∨ (0x7F ≤ n ∧ n < 0xA0) then none else some (ofChar c)

/-- Letters that are drawn as one sign with what stands before them. -/
inductive Ligature where
  | alef
  | hebrewLamed
  | khmerLetter
  | bugineseYa
  | bugineseVowel
  | tifinagh
  | tifinaghJoined
  | lisuTone
  | orkhonI
  | kiratRaiE
  | kiratRaiAi
deriving DecidableEq

/-- What the rest of a text begins with, as far as the character before it may join it. -/
inductive Follow where
  | plain
  | lineFeed
  | picture
  | modifier
  | regional (several : Bool)
  /-- A joiner with a picture behind it. -/
  | joiner
  | joinedKeycap
  /-- Tags of a flag with a joiner and a picture behind them: letters, and digits before these. -/
  | joinedTags (letters digits : Nat)
  /-- Regional indicators with a joiner and a picture behind them. -/
  | joinedRegional (even : Bool)
  /-- A letter of a ligature, and whether a joiner stands before it. -/
  | ligature (letter : Ligature) (joined : Bool)
deriving DecidableEq

/-- A selector at the front of the rest. -/
inductive Selector where
  | none
  | picture
  | text
  | halfWidth
  | fullWidth
deriving DecidableEq

/-- The front of the rest of a text. -/
structure Front where
  follow : Follow
  selector : Selector
deriving DecidableEq

/-- A front without a selector. -/
def Front.of (follow : Follow) : Front := ⟨follow, .none⟩

/-- A character of the alphabet of regional indicators. -/
def isRegional (n : Nat) : Bool := within [(0x1F1E6, 0x1F1FF)] n

/-- A modifier of the colour of a picture. -/
def isModifier (n : Nat) : Bool := within [(0x1F3FB, 0x1F3FF)] n

/-- A consonant of Tifinagh. -/
def isTifinagh (n : Nat) : Bool := within [(0x2D31, 0x2D65), (0x2D6F, 0x2D6F)] n

/-- A form of the Arabic letter alef. -/
def isAlef (n : Nat) : Bool :=
  within [(0x622, 0x623), (0x625, 0x625), (0x627, 0x627), (0x671, 0x673), (0x675, 0x675),
    (0x773, 0x774), (0x870, 0x882)] n

/-- A form of the Arabic letter lam. -/
def isLam (n : Nat) : Bool :=
  within [(0x644, 0x644), (0x6B5, 0x6B8), (0x76A, 0x76A), (0x8A6, 0x8A6), (0x8C7, 0x8C7)] n

/-- A Khmer letter that can stand below another. -/
def isKhmerLetter (n : Nat) : Bool :=
  within [(0x1780, 0x1782), (0x1784, 0x1787), (0x1789, 0x178C), (0x178E, 0x1793),
    (0x1795, 0x1798), (0x179B, 0x179D), (0x17A0, 0x17A0), (0x17A2, 0x17A2), (0x17A7, 0x17A7),
    (0x17AB, 0x17AC), (0x17AF, 0x17AF)] n

/-- A quotation mark whose extent a selector may fix. -/
def isCurlyQuote (n : Nat) : Bool := within [(0x2018, 0x2019), (0x201C, 0x201D)] n

/-- A mark that is not seen and does not part the letters of a ligature. -/
def isLigatureMark (n : Nat) : Bool :=
  within [(0x34F, 0x34F), (0x17B4, 0x17B5), (0x180B, 0x180D), (0x180F, 0x180F), (0xFE00, 0xFE0F),
    (0xE0100, 0xE01EF)] n

/-- A sign without columns that does not part lam and alef. -/
def isTransparent (c : Char) : Bool :=
  ofChar c == 0 && (marks.has c || ignorable.has c) &&
    !within [(0x180E, 0x180E), (0x200C, 0x200D), (0x2066, 0x2069)] c.toNat

/-- A character that a selector turns into a picture. -/
def startsPicture (c : Char) : Bool := selectable.has c

/-- A picture that a selector turns into a sign of one column. -/
def startsSign (c : Char) : Bool :=
  pictures.has c && selectable.has c && !within [(0x1F200, 0x1F2FF)] c.toNat

/-- A character on its own, before anything. -/
def alone (c : Char) : Int × Front :=
  let n := c.toNat
  let follow : Follow :=
    if isRegional n then .regional false
    else if isModifier n then .modifier
    else if pictures.has c then .picture
    else if isAlef n then .ligature .alef false
    else if n = 0x5DC then .ligature .hebrewLamed false
    else if isKhmerLetter n then .ligature .khmerLetter false
    else if n = 0x1A10 then .ligature .bugineseYa false
    else if isTifinagh n then .ligature .tifinagh false
    else if n = 0xA4FC ∨ n = 0xA4FD then .ligature .lisuTone false
    else if n = 0x10C03 then .ligature .orkhonI false
    else if n = 0x16D67 then .ligature .kiratRaiE false
    else if n = 0x16D68 then .ligature .kiratRaiAi false
    else .plain
  let selector : Selector :=
    if n = 0xFE0F then .picture
    else if n = 0xFE0E then .text
    else if n = 0xFE00 then .halfWidth
    else if n = 0xFE01 then .fullWidth
    else .none
  (ofChar c, ⟨follow, selector⟩)

/-- A picture that is part of the sign behind it, or a sign of its own. -/
def picture (columns : Nat) : Option (Int × Front) := some (columns, .of .picture)

/-- A character that joins a letter behind it, with the change of the columns. -/
def joinLetter (letter : Ligature) (joined : Bool) (c : Char) : Option (Int × Front) :=
  let n := c.toNat
  let ends : Option (Int × Front) := some (0, .of .plain)
  match letter with
  | .alef =>
    if joined then none
    else if isLam n then ends
    else if isTransparent c then some (0, .of (.ligature .alef false))
    else none
  | .hebrewLamed => if joined && n == 0x5D0 then ends else none
  | .khmerLetter => if n = 0x17D2 then some (-1, .of .plain) else none
  | .bugineseYa =>
    if joined && n == 0x1A17 then some (0, .of (.ligature .bugineseVowel false)) else none
  | .bugineseVowel => if n = 0x1A15 then ends else none
  | .tifinagh =>
    if n = 0x2D7F then some (1, .of (.ligature .tifinaghJoined false))
    else if joined && isTifinagh n then ends
    else none
  | .tifinaghJoined => if isTifinagh n then some (-1, .of .plain) else none
  | .lisuTone => if within [(0xA4F8, 0xA4FB)] n then ends else none
  | .orkhonI => if joined && n == 0x10C32 then ends else none
  | .kiratRaiE =>
    if n = 0x16D63 ∨ n = 0x16D69 then ends
    else if n = 0x16D67 then some (0, .of (.ligature .kiratRaiAi false))
    else if n = 0x16D68 then some (1, .of (.ligature .kiratRaiE false))
    else none
  | .kiratRaiAi => if n = 0x16D63 then ends else none

/-- A character that joins what follows it into one sign, with the columns that it adds. -/
def join (follow : Follow) (c : Char) : Option (Int × Front) :=
  let n := c.toNat
  match follow with
  | .plain | .lineFeed => none
  | .picture => if n = 0x200D then some (0, .of .joiner) else none
  | .modifier =>
    if n = 0x200D then some (0, .of .joiner)
    else if modifiable.has c then picture 0
    else none
  | .regional several =>
    if isRegional n then some (1, .of (.regional true))
    else if several && n == 0x200D then some (0, .of .joiner)
    else none
  | .joiner =>
    if n = 0x20E3 then some (0, .of .joinedKeycap)
    else if isRegional n then some (1, .of (.joinedRegional false))
    else if isModifier n then some (0, .of .modifier)
    else if n = 0xE007F then some (0, .of (.joinedTags 0 0))
    else if pictures.has c then picture 0
    else none
  | .joinedKeycap => none
  | .joinedTags letters digits =>
    if within [(0xE0061, 0xE007A)] n && letters < 6 && digits == 0 then
      some (0, .of (.joinedTags (letters + 1) 0))
    else if within [(0xE0030, 0xE0039)] n && (if digits = 0 then letters ≤ 4 else digits < 3) then
      some (0, .of (.joinedTags letters (digits + 1)))
    else if n = 0x1F3F4 ∧ (if digits = 0 then 3 ≤ letters else digits = 3) then picture 0
    else none
  | .joinedRegional even =>
    if isRegional n then some (if even then 3 else -1, .of (.joinedRegional (!even)))
    else if n = 0x200D then some (0, .of .joiner)
    else none
  | .ligature letter joined =>
    if n = 0x200D then some (0, .of (.ligature letter true))
    else if isLigatureMark n then some (0, .of (.ligature letter joined))
    else joinLetter letter joined c

/-- The front that a selector makes. It parts all but ligatures and joined pictures. -/
def select (selector : Selector) (follow : Follow) : Front :=
  match follow with
  | .joiner | .joinedKeycap | .ligature _ _ => ⟨follow, selector⟩
  | _ => ⟨.plain, selector⟩

/-- What is left of a front whose selector found nothing to select. -/
def Front.unselected (front : Front) : Follow :=
  match front.selector, front.follow with
  | .none, follow => follow
  | _, .ligature letter joined => .ligature letter joined
  | _, _ => .plain

/-- The columns that a character adds before the rest of a text, and the new front. -/
def step (c : Char) (front : Front) : Int × Front :=
  let n := c.toNat
  let isJoined := front.follow == .joiner || front.follow == .joinedKeycap
  if front.selector = .picture ∧ startsPicture c then
    (if isJoined then 0 else 2, .of .picture)
  else if n ≤ 0xA0 then
    if n = 0xA then (1, .of .lineFeed)
    else if n = 0xD ∧ front = .of .lineFeed then (0, .of .plain)
    else (1, .of .plain)
  else if n = 0xFE0F then (0, select .picture front.follow)
  else if n = 0xFE0E then (0, select .text front.follow)
  else if front.selector = .text ∧ startsSign c then (1, .of .plain)
  else if front.selector = .halfWidth ∧ isCurlyQuote n then (1, .of .plain)
  else if front.selector = .fullWidth ∧ isCurlyQuote n then (2, .of .plain)
  else
    match join front.unselected c with
    | some joined => joined
    | none => alone c

/-- A text added up from its end: its columns, and its front. -/
def scan (cs : List Char) : Int × Front :=
  cs.foldr (fun c rest =>
    let (added, front) := step c rest.2
    (rest.1 + added, front)) ((0 : Int), Front.of .plain)

/-- The columns of a text given by its characters. -/
def ofList (cs : List Char) : Nat := (scan cs).1.toNat

end Columns

/-- The columns of a text. -/
def columns (s : String) : Nat := Columns.ofList s.toList

end HomeConsole
