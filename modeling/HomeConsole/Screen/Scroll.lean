import HomeConsole.Screen.Paragraph

/-!
# Scrolling

A view on lines that may be more than fit, with a bar at its right side that shows how far it has
been moved. Positions are words of 16 bits and stop at their ends.
-/

namespace HomeConsole

/-- How far a view has been moved, and the height it was last drawn with. -/
structure Scroll where
  offset : UInt16 := 0
  page : Option UInt16 := none
deriving DecidableEq, Inhabited

/-- The sum of two words, or the greatest word. -/
def UInt16.addUpTo (a b : UInt16) : UInt16 := if a + b < a then 65535 else a + b

/-- The difference of two words, or zero. -/
def UInt16.subDownTo (a b : UInt16) : UInt16 := if a < b then 0 else a - b

namespace Scroll

/-- The height of a page; of a view that was never drawn, one line. -/
def pageSize (scroll : Scroll) : UInt16 := scroll.page.getD 1

/-- One line up. -/
def up (scroll : Scroll) : Scroll := { scroll with offset := UInt16.subDownTo scroll.offset 1 }

/-- One line down. -/
def down (scroll : Scroll) : Scroll := { scroll with offset := UInt16.addUpTo scroll.offset 1 }

/-- One page up, so that the first line becomes the last one. -/
def pageUp (scroll : Scroll) : Scroll :=
  { scroll with
    offset := UInt16.subDownTo (UInt16.addUpTo scroll.offset 1) scroll.pageSize }

/-- One page down, so that the last line becomes the first one. -/
def pageDown (scroll : Scroll) : Scroll :=
  { scroll with
    offset := UInt16.subDownTo (UInt16.addUpTo scroll.offset scroll.pageSize) 1 }

/-- To the first line. -/
def toTop (scroll : Scroll) : Scroll := { scroll with offset := 0 }

/-- The view after it was drawn with a height: no further down than to where the last line is at the
bottom. -/
def settle (scroll : Scroll) (lines height : Nat) : Scroll where
  offset := (min scroll.offset.toNat (lines - height)).toUInt16
  page := some height.toUInt16

end Scroll

/-- The bar beside a view: where its thumb begins, and how long it is. -/
structure Thumb where
  start : Nat
  length : Nat
deriving DecidableEq

/-- A quotient rounded to the nearest number; a half is rounded up. -/
def roundQuotient (n d : Nat) : Nat := (2 * n + d) / (2 * d)

/-- The thumb in a track, for a view of a height at one of `positions` places. Its length is to the
track what the view is to all that can be seen. -/
def Thumb.at (position positions height track : Nat) : Thumb :=
  let last := positions - 1
  let whole := last + height
  let length := min (max (roundQuotient (height * track) whole) 1) track
  ⟨min (roundQuotient (min position last * track) whole) (track - length), length⟩

/-- The thumb stays within its track. -/
theorem Thumb.at_le (position positions height : Nat) {track : Nat} :
    (Thumb.at position positions height track).start +
      (Thumb.at position positions height track).length ≤ track := by
  simp only [Thumb.at]
  omega

namespace Canvas

/-- Draws the bar of a view at the right side of an area. -/
def drawBar (canvas : Canvas) (area : Area) (offset lines : Nat) : Canvas :=
  let positions := lines - area.height
  let track := area.height - 2
  if positions = 0 ∨ track = 0 ∨ area.width = 0 then canvas
  else
    let x := area.right - 1
    let thumb := Thumb.at offset positions area.height track
    let canvas := canvas.modify x area.y (·.put "▲" .plain)
    let canvas := canvas.putColumn x (area.y + 1) track "║" .plain
    let canvas := canvas.putColumn x (area.y + 1 + thumb.start) thumb.length "█" .plain
    canvas.modify x (area.y + 1 + track) (·.put "▼" .plain)

/-- Copies cells of another canvas, from a row of it on, into an area. -/
def copyRows (canvas content : Canvas) (first width : Nat) (area : Area) : Canvas :=
  let canvas := if content.intact then canvas else canvas.broken
  ((List.range' first (min area.height (content.height - first))).zip area.rows).foldl
    (fun canvas (source, y) =>
      ((List.range (min width (min area.width content.width))).foldl (fun canvas x =>
        match content.get? x source with
        | some cell => canvas.modify (area.x + x) y fun _ => cell
        | none => canvas.broken) canvas)) canvas

/-- The lines of a view, one below the other, as many as a word of 16 bits counts. -/
def content (lines : List Line) (width : Nat) : Canvas :=
  let height := lines.length.toUInt16.toNat
  Paragraph.draw { lines } (blank width height) ⟨0, 0, width, height⟩

/-- Draws a content in a view, and says how the view was moved to do so. -/
def drawContent (canvas : Canvas) (area : Area) (content : Canvas) (scroll : Scroll) :
    Canvas × Scroll :=
  let scroll := scroll.settle content.height area.height
  let offset := scroll.offset.toNat
  let hasBar := area.height < content.height
  let canvas := if hasBar then canvas.drawBar area offset content.height else canvas
  (canvas.copyRows content offset (if hasBar then area.width - 1 else area.width) area, scroll)

/-- Draws lines in a view, and says how the view was moved to do so. -/
def drawScrolled (canvas : Canvas) (area : Area) (lines : List Line) (scroll : Scroll) :
    Canvas × Scroll :=
  canvas.drawContent area (content lines (area.width - 1)) scroll

end Canvas

end HomeConsole
