import HomeConsole.Text.Index.Big5
import HomeConsole.Text.Index.Gb18030
import HomeConsole.Text.Index.Jis
import HomeConsole.Text.Index.Korean

/-!
# Charsets of several bytes

UTF-16, and the charsets of East Asia, in which a character takes one to four bytes. Most of these
lay characters out on a grid: a leading byte picks the row and a trailing byte the cell. Bytes are
read piece by piece; a piece that means nothing ends as early as it can, so that ASCII behind it is
not lost.
-/

namespace HomeConsole.Charset

/-! ## Grids -/

/-- Bytes in ranges, which ascend. -/
structure Bytes where
  ranges : List (Nat × Nat)
  ascending : ranges.Pairwise (·.2 < ·.1)

namespace Bytes

/-- How many numbers lie in ranges. -/
def count : List (Nat × Nat) → Nat
  | [] => 0
  | (first, last) :: more => last + 1 - first + count more

/-- The place of a number among those in ranges. -/
def placeIn? : List (Nat × Nat) → Nat → Option Nat
  | [], _ => none
  | (first, last) :: more, n =>
    if first ≤ n ∧ n ≤ last then some (n - first)
    else (placeIn? more n).map (last + 1 - first + ·)

/-- The number at a place among those in ranges. -/
def atIn? : List (Nat × Nat) → Nat → Option Nat
  | [], _ => none
  | (first, last) :: more, place =>
    if place < last + 1 - first then some (first + place)
    else atIn? more (place - (last + 1 - first))

/-- How many bytes there are. -/
def size (bytes : Bytes) : Nat := count bytes.ranges

/-- The place of a byte. -/
def place? (bytes : Bytes) (b : UInt8) : Option Nat := placeIn? bytes.ranges b.toNat

/-- The byte at a place, as a number. -/
def at? (bytes : Bytes) (place : Nat) : Option Nat := atIn? bytes.ranges place

theorem isSome_placeIn? (ranges : List (Nat × Nat)) (n : Nat) :
    (placeIn? ranges n).isSome = ranges.any fun range => range.1 ≤ n && n ≤ range.2 := by
  induction ranges with
  | nil => rfl
  | cons range more ih =>
    rw [placeIn?, List.any_cons]
    split
    · rename_i h
      simp [h]
    · rename_i h
      rw [Option.isSome_map, ih]
      simpa using fun hfirst hlast => absurd ⟨hfirst, hlast⟩ h

end Bytes

/-- The characters at the front of some bytes, if the bytes there mean any, and the bytes behind. -/
abbrev Piece := Option (List Char) × List UInt8

/-- Whether `rest` is what at most `n` bytes, taken off the front of others, leave of these. -/
def Takes (n : Nat) (bytes rest : List UInt8) : Prop :=
  ∃ front, front.length ≤ n ∧ front ++ rest = bytes

namespace Takes

variable {n m : Nat} {bytes rest : List UInt8}

theorem refl (n : Nat) (bytes : List UInt8) : Takes n bytes bytes := ⟨[], Nat.zero_le n, rfl⟩

theorem cons (h : Takes n bytes rest) (b : UInt8) : Takes (n + 1) (b :: bytes) rest := by
  obtain ⟨front, hle, rfl⟩ := h
  exact ⟨b :: front, Nat.succ_le_succ hle, rfl⟩

theorem mono (h : Takes n bytes rest) (hle : n ≤ m) : Takes m bytes rest := by
  obtain ⟨front, hfront, hbytes⟩ := h
  exact ⟨front, Nat.le_trans hfront hle, hbytes⟩

theorem length_le (h : Takes n bytes rest) : rest.length ≤ bytes.length := by
  obtain ⟨front, -, rfl⟩ := h
  simp

end Takes

/-- A piece that its second byte spoils. That byte is read again if it is ASCII. -/
def spoilt (second : UInt8) (rest : List UInt8) : Piece :=
  (none, if second.toNat < 0x80 then second :: rest else rest)

theorem takes_spoilt (second : UInt8) (rest : List UInt8) :
    Takes 1 (second :: rest) (spoilt second rest).2 := by
  rw [spoilt]
  split
  · exact .refl 1 _
  · exact (Takes.refl 0 rest).cons second

/-- A grid: the leading bytes of its rows and the trailing bytes of its cells. -/
structure Grid where
  leads : Bytes
  trails : Bytes

namespace Grid

/-- The place of a pair of bytes, counted row by row. -/
def place? (grid : Grid) (lead trail : UInt8) : Option Nat :=
  match grid.leads.place? lead, grid.trails.place? trail with
  | some row, some cell => some (row * grid.trails.size + cell)
  | _, _ => none

/-- Whether a byte begins a row. -/
def isLead (grid : Grid) (b : UInt8) : Bool := (grid.leads.place? b).isSome

theorem isLead_iff {grid : Grid} {b : UInt8} : grid.isLead b = true ↔
    ∃ range ∈ grid.leads.ranges, range.1 ≤ b.toNat ∧ b.toNat ≤ range.2 := by
  simp [isLead, Bytes.place?, Bytes.isSome_placeIn?]

/-- The piece that a leading byte begins, with what stands at the places of the grid. -/
def piece (grid : Grid) (text? : Nat → Option (List Char)) (lead : UInt8) : List UInt8 → Piece
  | [] => (none, [])
  | trail :: rest =>
    match (grid.place? lead trail).bind text? with
    | some cs => (some cs, rest)
    | none => spoilt trail rest

theorem takes_piece (grid : Grid) (text? : Nat → Option (List Char)) (lead : UInt8)
    (rest : List UInt8) : Takes 1 rest (grid.piece text? lead rest).2 := by
  cases rest with
  | nil => exact .refl 1 []
  | cons trail rest =>
    rw [piece]
    split
    · exact (Takes.refl 0 rest).cons trail
    · exact takes_spoilt trail rest

end Grid

/-! ## Reading piece by piece -/

/-- A way to take the first piece off some bytes, which is four bytes long at most. -/
structure Reader where
  piece : UInt8 → List UInt8 → Piece
  takes (b : UInt8) (rest : List UInt8) : Takes 3 rest (piece b rest).2

/-- The text behind bytes; each piece without a meaning becomes one U+FFFD. -/
def Reader.read (reader : Reader) : List UInt8 → List Char
  | [] => []
  | b :: rest => (reader.piece b rest).1.getD ['\uFFFD'] ++ reader.read (reader.piece b rest).2
termination_by bytes => bytes.length
decreasing_by exact Nat.lt_succ_of_le (reader.takes b rest).length_le

/-- The character of a byte of ASCII. -/
def asciiChar? (b : UInt8) : Option Char :=
  if b.toNat < 0x80 then some (Char.ofNat b.toNat) else none

/-- The leading bytes of a grid beyond ASCII are none of ASCII. -/
theorem asciiChar?_of_isLead {grid : Grid} {b : UInt8}
    (h : (grid.leads.ranges.all fun range => 0x80 ≤ range.1) = true) (hb : grid.isLead b = true) :
    asciiChar? b = none := by
  obtain ⟨range, hrange, hfirst, -⟩ := Grid.isLead_iff.mp hb
  have hrow : 0x80 ≤ range.1 := of_decide_eq_true (List.all_eq_true.mp h range hrange)
  exact if_neg (by omega)

/-! ## UTF-16 -/

namespace Utf16

/-- A unit of 16 bits from two bytes. -/
def unit (bigEndian : Bool) (a b : UInt8) : Nat :=
  if bigEndian then a.toNat * 256 + b.toNat else b.toNat * 256 + a.toNat

/-- Whether a unit is the first half of a pair. -/
def isHigh (n : Nat) : Bool := 0xD800 ≤ n && n < 0xDC00

/-- Whether a unit is the second half of a pair. -/
def isLow (n : Nat) : Bool := 0xDC00 ≤ n && n < 0xE000

/-- The piece that a byte begins. A half of a pair by itself means nothing, and half a unit behind
it is lost with it. -/
def piece (bigEndian : Bool) (first : UInt8) : List UInt8 → Piece
  | [] => (none, [])
  | second :: rest =>
    let high := unit bigEndian first second
    if isHigh high then
      match rest with
      | third :: fourth :: behind =>
        let low := unit bigEndian third fourth
        if isLow low then
          (some [Char.ofNat (0x10000 + (high - 0xD800) * 0x400 + (low - 0xDC00))], behind)
        else (none, rest)
      | _ => (none, [])
    else if isLow high then (none, rest)
    else (some [Char.ofNat high], rest)

/-- The reader of UTF-16. -/
def reader (bigEndian : Bool) : Reader where
  piece := piece bigEndian
  takes first rest := by
    cases rest with
    | nil => exact .refl 3 []
    | cons second rest =>
      simp only [piece]
      split
      · match rest with
        | [] => exact ((Takes.refl 0 []).cons second).mono (by decide)
        | [third] => exact (((Takes.refl 0 []).cons third).cons second).mono (by decide)
        | third :: fourth :: behind =>
          dsimp only
          split
          · exact (((Takes.refl 0 behind).cons fourth).cons third).cons second
          · exact ((Takes.refl 0 _).cons second).mono (by decide)
      · split <;> exact ((Takes.refl 0 rest).cons second).mono (by decide)

end Utf16

/-! ## Bytes and pairs -/

/-- A charset of single bytes and of pairs on one grid. -/
structure Paired where
  single? : UInt8 → Option Char
  grid : Grid
  text? : Nat → Option (List Char)
  single_lead (b : UInt8) : grid.isLead b = true → single? b = none

namespace Paired

/-- The piece that a byte begins. -/
def piece (code : Paired) (b : UInt8) (rest : List UInt8) : Piece :=
  match code.single? b with
  | some c => (some [c], rest)
  | none => if code.grid.isLead b then code.grid.piece code.text? b rest else (none, rest)

/-- The reader of a charset. -/
def reader (code : Paired) : Reader where
  piece := code.piece
  takes b rest := by
    unfold piece
    split
    · exact .refl 3 rest
    · split
      · exact (Grid.takes_piece ..).mono (by decide)
      · exact .refl 3 rest

end Paired

/-- The grid of Shift_JIS. -/
def shiftJisGrid : Grid :=
  ⟨⟨[(0x81, 0x9F), (0xE0, 0xFC)], by decide⟩, ⟨[(0x40, 0x7E), (0x80, 0xFC)], by decide⟩⟩

/-- Shift_JIS. Half-width katakana are single bytes, and some rows are for private use. -/
def shiftJis : Paired where
  single? b :=
    if b.toNat ≤ 0x80 then some (Char.ofNat b.toNat)
    else if 0xA1 ≤ b.toNat ∧ b.toNat ≤ 0xDF then some (Char.ofNat (0xFF61 + (b.toNat - 0xA1)))
    else none
  grid := shiftJisGrid
  text? place :=
    if 8836 ≤ place ∧ place ≤ 10715 then some [Char.ofNat (0xE000 + (place - 8836))]
    else (jis0208.char? place).map ([·])
  single_lead b h := by
    obtain ⟨range, hrange, hfirst, hlast⟩ := Grid.isLead_iff.mp h
    simp only [shiftJisGrid, List.mem_cons, List.not_mem_nil, or_false] at hrange
    rcases hrange with rfl | rfl <;> rw [if_neg (by omega), if_neg (by omega)]

/-- The unified Hangul code, which goes by the name of EUC-KR. -/
def eucKr : Paired where
  single? := asciiChar?
  grid := ⟨⟨[(0x81, 0xFE)], by decide⟩, ⟨[(0x41, 0xFE)], by decide⟩⟩
  text? place := (korean.char? place).map ([·])
  single_lead _ := asciiChar?_of_isLead rfl

/-- Big5. Four of its places stand for a letter with a mark behind it. -/
def big5 : Paired where
  single? := asciiChar?
  grid := ⟨⟨[(0x81, 0xFE)], by decide⟩, ⟨[(0x40, 0x7E), (0xA1, 0xFE)], by decide⟩⟩
  text? place :=
    if place = 1133 then some ['\u00CA', '\u0304']
    else if place = 1135 then some ['\u00CA', '\u030C']
    else if place = 1164 then some ['\u00EA', '\u0304']
    else if place = 1166 then some ['\u00EA', '\u030C']
    else (big5Rows.char? place).map ([·])
  single_lead _ := asciiChar?_of_isLead rfl

/-! ## EUC-JP -/

namespace EucJp

/-- The grid of two JIS standards. -/
def grid : Grid := ⟨⟨[(0xA1, 0xFE)], by decide⟩, ⟨[(0xA1, 0xFE)], by decide⟩⟩

/-- The grid of half-width katakana. -/
def kanaGrid : Grid := ⟨⟨[(0x8E, 0x8E)], by decide⟩, ⟨[(0xA1, 0xDF)], by decide⟩⟩

/-- The half-width katakana at a place. -/
def kana? (place : Nat) : Option (List Char) := some [Char.ofNat (0xFF61 + place)]

/-- The piece that a byte begins. Behind 0x8F stands a pair of the second standard. -/
def piece (b : UInt8) (rest : List UInt8) : Piece :=
  match asciiChar? b with
  | some c => (some [c], rest)
  | none =>
    if kanaGrid.isLead b then kanaGrid.piece kana? b rest
    else if grid.isLead b then grid.piece (fun place => (jis0208.char? place).map ([·])) b rest
    else if b = 0x8F then
      match rest with
      | [] => (none, [])
      | lead :: rest =>
        if grid.isLead lead then
          grid.piece (fun place => (jis0212.char? place).map ([·])) lead rest
        else spoilt lead rest
    else (none, rest)

/-- The reader of EUC-JP. -/
def reader : Reader where
  piece := piece
  takes b rest := by
    unfold piece
    split
    · exact .refl 3 rest
    · split
      · exact (Grid.takes_piece ..).mono (by decide)
      · split
        · exact (Grid.takes_piece ..).mono (by decide)
        · split
          · cases rest with
            | nil => exact .refl 3 []
            | cons lead rest =>
              dsimp only
              split
              · exact ((Grid.takes_piece ..).cons lead).mono (by decide)
              · exact (takes_spoilt lead rest).mono (by decide)
          · exact .refl 3 rest

end EucJp

/-! ## GB 18030 -/

namespace Gb18030

/-- The grid of the pairs. -/
def grid : Grid := ⟨⟨[(0x81, 0xFE)], by decide⟩, ⟨[(0x40, 0x7E), (0x80, 0xFE)], by decide⟩⟩

/-- The character of a pair. -/
def pairText? (place : Nat) : Option (List Char) :=
  ((gbPairs.char? place).or
    ((gbPrivate.find? fun (first, _, count) => first ≤ place && place < first + count).map
      fun (first, code, _) => Char.ofNat (code + (place - first)))).map ([·])

/-- The character of four bytes. -/
def fourChar? (place : Nat) : Option Char :=
  if (39419 < place ∧ place < 189000) ∨ 1237575 < place then none
  else if place = 7457 then some '\uE7C7'
  else
    (lastUpTo? gbStarts place 0 gbStarts.size).map fun (first, code) =>
      Char.ofNat (code + (place - first))

/-- A byte that may be the first or the third of four. -/
def isOdd (b : UInt8) : Bool := 0x81 ≤ b.toNat && b.toNat ≤ 0xFE

/-- A byte that may be the second or the fourth of four. -/
def isEven (b : UInt8) : Bool := 0x30 ≤ b.toNat && b.toNat ≤ 0x39

/-- The place of four bytes. -/
def fourPlace (first second third fourth : UInt8) : Nat :=
  (((first.toNat - 0x81) * 10 + (second.toNat - 0x30)) * 126 + (third.toNat - 0x81)) * 10 +
    (fourth.toNat - 0x30)

/-- The piece that the first two of four bytes begin. Spoilt, all but the first are read again. -/
def fourPiece (first second : UInt8) : List UInt8 → Piece
  | [] => (none, [])
  | [third] => (none, if isOdd third then [] else [second, third])
  | third :: fourth :: rest =>
    if isOdd third ∧ isEven fourth then
      ((fourChar? (fourPlace first second third fourth)).map ([·]), rest)
    else (none, second :: third :: fourth :: rest)

/-- The piece that a byte begins. -/
def piece (b : UInt8) (rest : List UInt8) : Piece :=
  match asciiChar? b with
  | some c => (some [c], rest)
  | none =>
    if b = 0x80 then (some ['€'], rest)
    else if b = 0xFF then (none, rest)
    else
      match rest with
      | [] => (none, [])
      | second :: behind =>
        if isEven second then fourPiece b second behind else grid.piece pairText? b rest

theorem takes_fourPiece (first second : UInt8) (rest : List UInt8) :
    Takes 3 (second :: rest) (fourPiece first second rest).2 := by
  match rest with
  | [] => exact ((Takes.refl 0 []).cons second).mono (by decide)
  | [third] =>
    rw [fourPiece]
    split
    · exact (((Takes.refl 0 []).cons third).cons second).mono (by decide)
    · exact .refl 3 _
  | third :: fourth :: rest =>
    rw [fourPiece]
    split
    · exact (((Takes.refl 0 rest).cons fourth).cons third).cons second
    · exact .refl 3 _

/-- The reader of GB 18030, and of GBK. -/
def reader : Reader where
  piece := piece
  takes b rest := by
    unfold piece
    split
    · exact .refl 3 rest
    · split
      · exact .refl 3 rest
      · split
        · exact .refl 3 rest
        · cases rest with
          | nil => exact .refl 3 []
          | cons second behind =>
            dsimp only
            split
            · exact takes_fourPiece ..
            · exact (Grid.takes_piece ..).mono (by decide)

end Gb18030

/-! ## ISO-2022-JP -/

namespace Iso2022

/-- What bytes mean until the next escape. -/
inductive Mode where
  | ascii
  | roman
  | katakana
  | kanji
deriving DecidableEq

/-- The mode that the two bytes behind an escape begin. -/
def mode? (a b : UInt8) : Option Mode :=
  if a = 0x28 then
    if b = 0x42 then some .ascii
    else if b = 0x4A then some .roman
    else if b = 0x49 then some .katakana
    else none
  else if a = 0x24 ∧ (b = 0x40 ∨ b = 0x42) then some .kanji
  else none

/-- The character of a byte by itself. -/
def char? (mode : Mode) (b : UInt8) : Option Char :=
  match mode with
  | .ascii => if b = 0x0E ∨ b = 0x0F ∨ b = 0x1B then none else asciiChar? b
  | .roman =>
    if b = 0x0E ∨ b = 0x0F ∨ b = 0x1B then none
    else if b = 0x5C then some '¥'
    else if b = 0x7E then some '\u203E'
    else asciiChar? b
  | .katakana =>
    if 0x21 ≤ b.toNat ∧ b.toNat ≤ 0x5F then some (Char.ofNat (0xFF61 + (b.toNat - 0x21)))
    else none
  | .kanji => none

/-- The grid of kanji. -/
def grid : Grid := ⟨⟨[(0x21, 0x7E)], by decide⟩, ⟨[(0x21, 0x7E)], by decide⟩⟩

/-- The kanji of two bytes. -/
def kanji? (lead trail : UInt8) : Option Char := (grid.place? lead trail).bind jis0208.char?

/-- The text behind bytes in a mode. An escape straight behind another one is a fault, and so is an
escape that cuts a pair. -/
def read (mode : Mode) (escaped : Bool) : List UInt8 → List Char
  | [] => []
  | b :: rest =>
    if b = 0x1B then
      match rest with
      | first :: second :: behind =>
        match mode? first second with
        | some mode => if escaped then '\uFFFD' :: read mode true behind else read mode true behind
        | none => '\uFFFD' :: read mode false (first :: second :: behind)
      | rest => '\uFFFD' :: read mode false rest
    else if mode = .kanji ∧ grid.isLead b then
      match rest with
      | [] => ['\uFFFD']
      | trail :: behind =>
        if trail = 0x1B then '\uFFFD' :: read mode false (trail :: behind)
        else (kanji? b trail).getD '\uFFFD' :: read mode false behind
    else (char? mode b).getD '\uFFFD' :: read mode false rest
termination_by bytes => bytes.length

end Iso2022

end HomeConsole.Charset
