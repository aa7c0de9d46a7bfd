import HomeConsole.Screen.Line
import HomeConsole.Text.Blank

/-!
# Wrapped lines

Glyphs broken into lines of a width, between words where that is possible and within a word that is
longer than a line. The blanks at a break are dropped.
-/

namespace HomeConsole

/-- Whether a glyph parts words: the zero width space, or blanks other than the one that joins
words. -/
def Glyph.isBlank (glyph : Glyph) : Bool :=
  glyph.symbol == "\u200B" ||
    (glyph.symbol.toList.all HomeConsole.isBlank && glyph.symbol != "\u00A0")

/-- A piece of glyphs with its columns; the latest glyph comes first. -/
structure Piece where
  glyphs : List Glyph := []
  columns : Nat := 0

namespace Piece

/-- The piece with one more glyph. -/
def push (piece : Piece) (glyph : Glyph) : Piece :=
  ⟨glyph :: piece.glyphs, piece.columns + glyph.columns⟩

/-- Two pieces, one after the other. -/
def append (front back : Piece) : Piece := ⟨back.glyphs ++ front.glyphs, front.columns + back.columns⟩

/-- Drops glyphs from the front as long as they fit into some columns. -/
def dropFront (free : Nat) (piece : Piece) : Piece :=
  let rec go (free columns : Nat) : List Glyph → Piece
    | [] => ⟨[], columns⟩
    | glyph :: glyphs =>
      if glyph.columns > free then ⟨(glyph :: glyphs).reverse, columns⟩
      else go (free - glyph.columns) (columns - glyph.columns) glyphs
  go free piece.columns piece.glyphs.reverse

end Piece

/-- A text that is being broken into lines. -/
structure Wrap where
  /-- The finished lines, latest first. -/
  lines : List (List Glyph) := []
  line : Piece := {}
  blanks : Piece := {}
  word : Piece := {}
  /-- The glyph before was part of a word. -/
  inWord : Bool := false

namespace Wrap

/-- Adds the pending word to the line, with the blanks before it unless the line is empty. -/
def closeWord (wrap : Wrap) : Wrap :=
  let line := if wrap.line.glyphs.isEmpty then wrap.line else wrap.line.append wrap.blanks
  { wrap with line := line.append wrap.word, blanks := {}, word := {} }

/-- Ends the line, and drops the pending blanks that would have fit into it. -/
def closeLine (width : Nat) (wrap : Wrap) : Wrap :=
  { wrap with
    lines := wrap.line.glyphs.reverse :: wrap.lines
    line := {}
    blanks := wrap.blanks.dropFront (width - wrap.line.columns) }

/-- Takes one more glyph in. -/
def push (width : Nat) (wrap : Wrap) (glyph : Glyph) : Wrap :=
  let columns := glyph.columns
  if columns > width then wrap
  else
    let isBlank := glyph.isBlank
    let atStart := wrap.line.glyphs.isEmpty
    let wrap :=
      if (wrap.inWord && isBlank) || (atStart && wrap.word.columns + columns > width) ||
          (atStart && wrap.blanks.columns + columns > width) then wrap.closeWord
      else wrap
    let breaks := wrap.line.columns ≥ width ||
      (columns > 0 && wrap.line.columns + wrap.blanks.columns + wrap.word.columns ≥ width)
    let wrap := if breaks then wrap.closeLine width else wrap
    if breaks && isBlank && wrap.blanks.glyphs.isEmpty then wrap
    else if isBlank then { wrap with blanks := wrap.blanks.push glyph, inWord := false }
    else { wrap with word := wrap.word.push glyph, inWord := true }

/-- The lines of a text that has been taken in. There is at least one. -/
def finish (wrap : Wrap) : List (List Glyph) :=
  let blankOnly := wrap.line.glyphs.isEmpty && wrap.word.glyphs.isEmpty &&
    !wrap.blanks.glyphs.isEmpty
  let lines := if blankOnly then [] :: wrap.lines else wrap.lines
  let last := wrap.closeWord.line.glyphs.reverse
  let lines := if last.isEmpty then lines else last :: lines
  if lines.isEmpty then [[]] else lines.reverse

end Wrap

/-- Glyphs broken into lines of a width. -/
def wrapGlyphs (width : Nat) (glyphs : List Glyph) : List (List Glyph) :=
  (glyphs.foldl (Wrap.push width) {}).finish

/-- The longest beginning of glyphs that fits into a width. Glyphs wider than that are left out. -/
def cutGlyphs (width : Nat) : List Glyph → List Glyph
  | [] => []
  | glyph :: glyphs =>
    if glyph.columns > width then cutGlyphs width glyphs
    else glyph :: fit (width - glyph.columns) width glyphs
where
  /-- Goes on with the columns that are still free. -/
  fit (free width : Nat) : List Glyph → List Glyph
    | [] => []
    | glyph :: glyphs =>
      if glyph.columns > width then fit free width glyphs
      else if glyph.columns > free then []
      else glyph :: fit (free - glyph.columns) width glyphs

end HomeConsole
