import HomeConsole.Screen.Style
import HomeConsole.Text.Cluster.Basic
import HomeConsole.Text.Columns

/-!
# Styled text

A line is a row of spans, each a text in one style. What is drawn of a text are its glyphs: the
clusters without control characters.
-/

namespace HomeConsole

/-- Where a text stands in its area. -/
inductive Alignment where
  | left
  | center
  | right
deriving DecidableEq

/-- A text in one style. -/
structure Span where
  text : String
  style : Style := .plain
deriving DecidableEq, Inhabited

/-- A row of spans. -/
abbrev Line := List Span

/-- A sign to be drawn in one cell, or in several if it is wide. -/
structure Glyph where
  symbol : String
  style : Style
deriving DecidableEq, Inhabited

/-- Whether a character is a control. -/
def isControl (c : Char) : Bool :=
  let n := c.toNat
  n < 0x20 || (0x7F ≤ n && n < 0xA0)

/-- The columns of a glyph. -/
def Glyph.columns (glyph : Glyph) : Nat := HomeConsole.columns glyph.symbol

/-- The columns of glyphs side by side. -/
def glyphColumns (glyphs : List Glyph) : Nat :=
  glyphs.foldr (fun glyph n => glyph.columns + n) 0

namespace Span

/-- The columns of the text. -/
def columns (span : Span) : Nat := HomeConsole.columns span.text

/-- The glyphs of the text. -/
def glyphs (span : Span) : List Glyph :=
  ((clusters span.text.toList).filter fun cluster => !cluster.any isControl).map fun cluster =>
    ⟨String.ofList cluster, span.style⟩

/-- The longest end of the text that takes no more than some columns, by whole clusters. -/
def endWithin (span : Span) (most : Nat) : Span :=
  let rec go (kept : List Char) (used : Nat) : List (List Char) → List Char
    | [] => kept
    | cluster :: before =>
      let used := used + Columns.ofList cluster
      if used ≤ most then go (cluster ++ kept) used before else kept
  { span with text := String.ofList (go [] 0 (clusters span.text.toList).reverse) }

end Span

namespace Line

/-- The columns of a line. -/
def columns (line : Line) : Nat := line.foldr (fun span n => span.columns + n) 0

/-- The glyphs of a line. -/
def glyphs (line : Line) : List Glyph := line.flatMap Span.glyphs

/-- The spans of a line that are left when some columns at its start are cut off, each with the
blanks before it and the columns it takes. Spans without columns go as well. -/
def after (skip : Nat) : Line → List (Nat × Nat × Span)
  | [] => []
  | span :: line =>
    let columns := span.columns
    if columns ≤ skip then after (skip - columns) line
    else
      let rest := after 0 line
      if skip = 0 then (0, columns, span) :: rest
      else
        let part := span.endWithin (columns - skip)
        (columns - skip - part.columns, part.columns, part) :: rest

end Line

end HomeConsole
