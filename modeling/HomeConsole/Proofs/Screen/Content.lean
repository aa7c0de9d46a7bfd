import HomeConsole.Proofs.Screen.Scrolled

/-!
# What a view shows

A view draws its lines on a canvas of their own first, the content, and then copies the rows of it
that are seen. So in a row of the view stand the glyphs of a line, as many as fit. The content is as
high as there are lines, but counted in a word of 16 bits: the lines that the word does not count are
not on it.
-/

namespace HomeConsole

variable {bounds area : Area} {line : Line} {lines : List Line} {width height : Nat}

/-- The cell in a column of glyphs that stand side by side. A glyph is drawn in its first cell; the
other cells that it takes are empty. -/
def cellAt : List Glyph → Nat → Cell
  | [], _ => .blank
  | glyph :: glyphs, column =>
    if glyph.columns ≤ column then cellAt glyphs (column - glyph.columns)
    else if column = 0 then ⟨glyph.symbol, glyph.style⟩
    else .blank

namespace Canvas

theorem get?_blank {x y : Nat} (hx : x < width) (hy : y < height) :
    (blank width height).get? x y = some .blank := by
  obtain ⟨cell, hcell⟩ := get?_of_holds (holds_area.mpr
    ⟨show x < (blank width height).width from hx, show y < (blank width height).height from hy⟩)
  rw [hcell, eq_of_get?_blank hcell]

/-- The plain style changes no cell. -/
theorem get?_fill_plain (canvas : Canvas) (area : Area) (x y : Nat) :
    (canvas.fill area .plain).get? x y = canvas.get? x y := by
  have hfill : Draws canvas.area (fun stroke => ∀ cell, stroke.change cell = cell) fun canvas =>
      canvas.fill area .plain := by
    refine .foldl fun row _ => .foldl fun column _ => .modify fun cell => ?_
    show ({ cell with style := Style.plain.onto cell.style } : Cell) = cell
    rw [Style.plain_onto]
  refine hfill.get?_of_idle rfl fun stroke hs cell => ?_
  unfold Stroke.on
  split
  · exact hs cell
  · rfl

end Canvas

namespace Paragraph

/-! ## Rows -/

theorem draws_drawRow (y x : Nat) (glyphs : List Glyph) :
    Canvas.Draws bounds (fun stroke => stroke.y = y ∧ x ≤ stroke.x) fun canvas =>
      drawRow y x canvas glyphs := by
  induction glyphs generalizing x with
  | nil => exact .nothing
  | cons glyph glyphs ih =>
      by_cases hnone : glyph.columns = 0
      · refine (ih x).congr fun canvas _ => ?_
        simp only [drawRow, if_pos hnone]
      · have hput : Canvas.Draws bounds (fun stroke => stroke.y = y ∧ x ≤ stroke.x) fun canvas =>
            canvas.modify x y (·.put glyph.symbol glyph.style) := .modify ⟨rfl, Nat.le_refl x⟩
        have hmore := (ih (x + glyph.columns)).mono fun stroke hs =>
          (⟨hs.1, Nat.le_trans (Nat.le_add_right ..) hs.2⟩ : stroke.y = y ∧ x ≤ stroke.x)
        refine (hput.andThen hmore).congr fun canvas _ => ?_
        simp only [drawRow, if_neg hnone]

/-- In an empty row of cells, glyphs stand side by side from where they are drawn. -/
theorem get?_drawRow {y x column : Nat} {canvas : Canvas} (glyphs : List Glyph)
    (hblank : ∀ column, x + column < width → canvas.get? (x + column) y = some .blank)
    (hcolumn : x + column < width) :
    (drawRow y x canvas glyphs).get? (x + column) y = some (cellAt glyphs column) := by
  induction glyphs generalizing x column canvas with
  | nil => exact hblank column hcolumn
  | cons glyph glyphs ih =>
      have hput : ∀ other, other ≠ 0 → x + other < width →
          (canvas.modify x y (·.put glyph.symbol glyph.style)).get? (x + other) y =
            some .blank := by
        intro other hother hin
        have hne : ¬ (x = x + other ∧ y = y) := by omega
        rw [Canvas.get?_modify, Stroke.on_of_ne hne, Option.map_id, id, hblank other hin]
      unfold drawRow cellAt
      by_cases hnone : glyph.columns = 0
      · simp only [hnone, if_true, Nat.zero_le, Nat.sub_zero]
        exact ih hblank hcolumn
      · simp only [if_neg hnone]
        split
        · -- the glyph lies before the column, so the next ones are looked at from where it ends
          rename_i hpast
          have hsum : x + column = x + glyph.columns + (column - glyph.columns) := by omega
          rw [hsum]
          refine ih (fun other hin => ?_) (hsum ▸ hcolumn)
          rw [Nat.add_assoc] at hin ⊢
          exact hput _ (by omega) hin
        · rename_i hhere
          have hmore : (drawRow y (x + glyph.columns)
              (canvas.modify x y (·.put glyph.symbol glyph.style)) glyphs).get? (x + column) y =
                (canvas.modify x y (·.put glyph.symbol glyph.style)).get? (x + column) y := by
            refine (draws_drawRow y (x + glyph.columns) glyphs).get?_of_free rfl ?_
            rintro stroke hs ⟨hx, -⟩
            omega
          rw [hmore]
          split
          · rename_i hfirst
            subst hfirst
            have hcell : canvas.get? x y = some .blank := hblank 0 hcolumn
            have hinto : Cell.put .blank glyph.symbol glyph.style = ⟨glyph.symbol, glyph.style⟩ :=
              congrArg (Cell.mk glyph.symbol) (Style.onto_plain glyph.style)
            rw [Nat.add_zero, Canvas.get?_modify, Stroke.on_of_eq ⟨rfl, rfl⟩, hcell,
              Option.map_some]
            exact congrArg some hinto
          · rename_i hinner
            exact hput column hinner hcolumn

/-- On an empty canvas of its size, a block of lines shows each line in its row. -/
theorem get?_draw_lines {i column : Nat} (hi : i < height) (hline : lines[i]? = some line)
    (hcolumn : column < width) :
    (draw { lines } (.blank width height) ⟨0, 0, width, height⟩).get? column i =
      some (cellAt (cutGlyphs width line.glyphs) column) := by
  have hrows : rows { lines } width = lines.map (cutGlyphs width ·.glyphs) := by
    simp only [rows, Bool.false_eq_true, if_false, List.map_map, Style.onto_plain]
    simp
  have hwithin : Area.Within ⟨0, 0, width, height⟩ (Canvas.blank width height).area := by
    simp [Area.Within]
  have hne : Area.isEmpty ⟨0, 0, width, height⟩ = false :=
    Area.isEmpty_eq_false.mpr ⟨Nat.zero_lt_of_lt hcolumn, Nat.zero_lt_of_lt hi⟩
  have hitem : (i, cutGlyphs width line.glyphs) ∈
      (Area.rows ⟨0, 0, width, height⟩).zip
        ((lines.map (cutGlyphs width ·.glyphs)).take height) := by
    refine List.mem_of_getElem? (i := i) (List.getElem?_zip_eq_some.mpr ⟨?_, ?_⟩)
    · rw [Area.getElem?_rows _ hi, Nat.zero_add]
    · rw [List.getElem?_take, if_pos hi, List.getElem?_map, hline, Option.map_some]
  rw [draw_eq, hwithin.clip_eq]
  simp only [textArea, hne, Bool.false_eq_true, if_false, drawFrame, drawText, hrows, blanks]
  rw [Canvas.Draws.get?_foldl_rows Prod.fst
    (fun item _ => (draws_drawRow item.1 _ item.2).mono fun _ hs => hs.1)
    (Area.nodup_rows_zip _ _) hitem rfl]
  have hempty : ∀ column, 0 + column < width →
      ((Canvas.blank width height).fill ⟨0, 0, width, height⟩ .plain).get? (0 + column) i =
        some .blank := by
    intro column hin
    rw [Canvas.get?_fill_plain, Nat.zero_add, Canvas.get?_blank (by omega) hi]
  have hin : 0 + column < width := by omega
  have hdrawn := get?_drawRow (cutGlyphs width line.glyphs) hempty hin
  rwa [Nat.zero_add] at hdrawn

/-- Lines below the area of a paragraph are not drawn. -/
theorem draw_take (lines : List Line) (canvas : Canvas) (area : Area) :
    draw { lines := lines.take area.height } canvas area = draw { lines } canvas area := by
  have hrows : (rows { lines := lines.take area.height } (area.clip canvas.area).width).take
      (area.clip canvas.area).height =
        (rows { lines } (area.clip canvas.area).width).take (area.clip canvas.area).height := by
    have hheight : (area.clip canvas.area).height ≤ area.height := by
      simp only [Area.clip, Area.bottom]
      omega
    simp only [rows, Bool.false_eq_true, if_false, List.map_take, List.take_take,
      Nat.min_eq_left hheight]
  simp only [draw_eq, textArea, drawFrame, drawText, hrows]
  rfl

end Paragraph

namespace Canvas

/-! ## The content -/

/-- The glyphs of a line stand in its row of the content. -/
theorem get?_content {i column : Nat} (hi : i < (content lines width).height)
    (hline : lines[i]? = some line) (hcolumn : column < width) :
    (content lines width).get? column i = some (cellAt (cutGlyphs width line.glyphs) column) := by
  rw [(size_content lines width).2] at hi
  exact Paragraph.get?_draw_lines hi hline hcolumn

/-- Lines that a word does not count are not on the content. -/
theorem content_take (lines : List Line) (width : Nat) :
    content (lines.take (content lines width).height) width = content lines width := by
  have hheight : (lines.take (lines.length % 65536)).length.toUInt16.toNat =
      lines.length.toUInt16.toNat := by
    show (lines.take (lines.length % 65536)).length % 65536 = lines.length % 65536
    rw [List.length_take]
    omega
  rw [(size_content lines width).2, content, hheight]
  exact Paragraph.draw_take lines _ ⟨0, 0, width, lines.length.toUInt16.toNat⟩

/-! ## The view -/

/-- A row of copied cells is the row of the content. -/
theorem get?_copyRows {canvas content : Canvas} (hintact : content.intact = true)
    (harea : area.Within canvas.area) {first k column : Nat} (hk : k < area.height)
    (hrow : first + k < content.height)
    (hcolumn : column < min width (min area.width content.width)) :
    (canvas.copyRows content first width area).get? (area.x + column) (area.y + k) =
      content.get? column (first + k) := by
  have hitem : (first + k, area.y + k) ∈
      (List.range' first (min area.height (content.height - first))).zip area.rows := by
    refine List.mem_of_getElem? (i := k) (List.getElem?_zip_eq_some.mpr ⟨?_, ?_⟩)
    · rw [List.getElem?_range' (by omega), Nat.one_mul]
    · exact area.getElem?_rows hk
  have hmem : column ∈ List.range (min width (min area.width content.width)) :=
    List.mem_range.mpr hcolumn
  obtain ⟨cell, hcell⟩ := get?_of_copied hitem hmem
  have hinside : canvas.area.Holds (area.x + column) (area.y + k) := by
    refine harea.holds ?_
    simp only [Area.Holds, Area.right, Area.bottom]
    omega
  obtain ⟨before, hbefore⟩ := get?_of_holds hinside
  -- of all that is copied only this row, and of this row only this column, touches the cell
  simp only [copyRows, hintact, if_true]
  rw [Draws.get?_foldl_rows Prod.snd ?row (Area.nodup_zip_rows _ _) hitem rfl,
    Draws.get?_foldl ?cell List.nodup_range hmem ?apart rfl]
  · simp only [hcell, get?_modify, hbefore]
    rw [Stroke.on_of_eq ⟨rfl, rfl⟩, Option.map_some]
  case row =>
    intro item hitem
    refine .foldl fun column hcolumn => ?_
    obtain ⟨cell, hcell⟩ := get?_of_copied hitem hcolumn
    exact (draws_copied hcell).mono fun _ hs => hs.2
  case cell =>
    intro column hcolumn
    obtain ⟨cell, hcell⟩ := get?_of_copied hitem hcolumn
    exact draws_copied hcell
  case apart =>
    rintro other - hne stroke ⟨hx, -⟩ ⟨hx', -⟩
    omega

/-- Whether in a row of a view stand the glyphs of a line, as many as fit beside the bar. -/
def Shows (canvas : Canvas) (area : Area) (k : Nat) (line : Line) : Prop :=
  ∀ column < area.width - 1, canvas.get? (area.x + column) (area.y + k) =
    some (cellAt (cutGlyphs (area.width - 1) line.glyphs) column)

/-- A view shows the lines of its content from where it was moved to. -/
theorem shows_drawContent {canvas : Canvas} (harea : area.Within canvas.area) {scroll : Scroll}
    {offset k : Nat} (hk : k < area.height)
    (hoffset : (scroll.settle (content lines (area.width - 1)).height area.height).offset.toNat =
      offset)
    (hrow : offset + k < (content lines (area.width - 1)).height)
    (hline : lines[offset + k]? = some line) :
    (canvas.drawContent area (content lines (area.width - 1)) scroll).1.Shows area k line := by
  intro column hcolumn
  have hwidth := (size_content lines (area.width - 1)).1
  have hintact := intact_content lines (area.width - 1)
  have hbar : ∀ offset lines, area.Within (canvas.drawBar area offset lines).area := by
    intro offset lines
    rw [(draws_bar area offset lines).area (rfl : canvas.area = canvas.area)]
    exact harea
  rw [← get?_content hrow hline hcolumn]
  simp only [drawContent, hoffset]
  split
  · exact get?_copyRows hintact (hbar ..) hk hrow (by omega)
  · exact get?_copyRows hintact harea hk hrow (by omega)

end Canvas

end HomeConsole
