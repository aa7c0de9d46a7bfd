import HomeConsole.Proofs.Screen.Drawn
import HomeConsole.Screen.Paragraph

/-!
# Rows of a paragraph

A paragraph draws each glyph where the ones before it end, without asking where its area or the
canvas ends. So it asks for a cell beside the canvas just where a glyph of a row that is seen begins
beside it. The rows of a paragraph that cuts long lines end within the area.
-/

namespace HomeConsole

variable {stop x n : Nat} {glyphs more : List Glyph}

/-! ## Where glyphs begin -/

/-- Glyphs side by side, the first one at `x`, begin before column `stop`; those without columns may
be anywhere. -/
def BeginBefore (stop : Nat) (x : Nat) : List Glyph → Prop
  | [] => True
  | glyph :: glyphs =>
    (glyph.columns = 0 ∨ x < stop) ∧ BeginBefore stop (x + glyph.columns) glyphs

/-- Whether glyphs begin before a column. -/
instance BeginBefore.decide : (stop x : Nat) → (glyphs : List Glyph) →
    Decidable (BeginBefore stop x glyphs)
  | _, _, [] => isTrue trivial
  | stop, x, glyph :: glyphs =>
    have := BeginBefore.decide stop (x + glyph.columns) glyphs
    inferInstanceAs (Decidable ((glyph.columns = 0 ∨ x < stop) ∧ _))

theorem glyphColumns_cons (glyph : Glyph) (glyphs : List Glyph) :
    glyphColumns (glyph :: glyphs) = glyph.columns + glyphColumns glyphs := rfl

theorem glyphColumns_append (glyphs more : List Glyph) :
    glyphColumns (glyphs ++ more) = glyphColumns glyphs + glyphColumns more := by
  induction glyphs with
  | nil => simp [glyphColumns]
  | cons glyph glyphs ih =>
      rw [List.cons_append, glyphColumns_cons, glyphColumns_cons, ih, Nat.add_assoc]

theorem glyphColumns_reverse (glyphs : List Glyph) :
    glyphColumns glyphs.reverse = glyphColumns glyphs := by
  induction glyphs with
  | nil => rfl
  | cons glyph glyphs ih =>
      rw [List.reverse_cons, glyphColumns_append, ih, glyphColumns_cons, glyphColumns_cons]
      simp only [glyphColumns, List.foldr_nil]
      omega

theorem beginBefore_append : BeginBefore stop x (glyphs ++ more) ↔
    BeginBefore stop x glyphs ∧ BeginBefore stop (x + glyphColumns glyphs) more := by
  induction glyphs generalizing x with
  | nil => simp [BeginBefore, glyphColumns]
  | cons glyph glyphs ih =>
      rw [List.cons_append, BeginBefore, BeginBefore, ih, glyphColumns_cons, Nat.add_assoc,
        and_assoc]

/-- Glyphs that end where they must, begin before. -/
theorem beginBefore_of_le (h : x + glyphColumns glyphs ≤ stop) : BeginBefore stop x glyphs := by
  induction glyphs generalizing x with
  | nil => trivial
  | cons glyph glyphs ih =>
      rw [glyphColumns_cons] at h
      exact ⟨by omega, ih (by omega)⟩

theorem BeginBefore.shift (h : BeginBefore stop x glyphs) {stop' : Nat} (n : Nat)
    (hstop : stop + n ≤ stop') : BeginBefore stop' (x + n) glyphs := by
  induction glyphs generalizing x with
  | nil => trivial
  | cons glyph glyphs ih =>
      refine ⟨h.1.imp_right fun hx => by omega, ?_⟩
      rw [Nat.add_right_comm]
      exact ih h.2

/-! ## Cut rows -/

theorem glyphColumns_fit_le (free width : Nat) (glyphs : List Glyph) :
    glyphColumns (cutGlyphs.fit free width glyphs) ≤ free := by
  induction glyphs generalizing free with
  | nil => exact Nat.zero_le free
  | cons glyph glyphs ih =>
      unfold cutGlyphs.fit
      split
      · exact ih free
      · split
        · exact Nat.zero_le free
        · have := ih (free - glyph.columns)
          rw [glyphColumns_cons]
          omega

/-- A cut row ends within its width. -/
theorem glyphColumns_cutGlyphs_le (width : Nat) (glyphs : List Glyph) :
    glyphColumns (cutGlyphs width glyphs) ≤ width := by
  induction glyphs with
  | nil => exact Nat.zero_le width
  | cons glyph glyphs ih =>
      unfold cutGlyphs
      split
      · exact ih
      · have := glyphColumns_fit_le (width - glyph.columns) width glyphs
        rw [glyphColumns_cons]
        omega

namespace Paragraph

variable {paragraph : Paragraph} {bounds area : Area} {canvas : Canvas} {y : Nat}

/-! ## Drawing rows -/

theorem area_drawRow (y x : Nat) (canvas : Canvas) (glyphs : List Glyph) :
    (drawRow y x canvas glyphs).area = canvas.area := by
  induction glyphs generalizing x canvas with
  | nil => rfl
  | cons glyph glyphs ih =>
      unfold drawRow
      simp only
      split
      · exact ih x canvas
      · rw [ih, Canvas.area_modify]

/-- A row is drawn beside the canvas just where one of its glyphs begins there. -/
theorem intact_drawRow (hy : y < canvas.height) :
    (drawRow y x canvas glyphs).intact = true ↔
      canvas.intact = true ∧ BeginBefore canvas.width x glyphs := by
  induction glyphs generalizing x canvas with
  | nil => exact (and_iff_left trivial).symm
  | cons glyph glyphs ih =>
      by_cases hnone : glyph.columns = 0
      · simp only [drawRow, BeginBefore, hnone, if_true, ih hy, true_or, true_and, Nat.add_zero]
      · obtain ⟨hwidth, hheight⟩ :=
          Canvas.size_of_area (canvas.area_modify x y (·.put glyph.symbol glyph.style))
        simp only [drawRow, BeginBefore, hnone, if_false, false_or]
        rw [ih (hheight ▸ hy), Canvas.intact_modify, Canvas.holds_area, hwidth, and_assoc]
        exact and_congr_right fun _ => ⟨fun h => ⟨h.1.1, h.2⟩, fun h => ⟨⟨h.1, hy⟩, h.2⟩⟩

/-! ## Drawing paragraphs -/

/-- The area of the text in the area of a paragraph. -/
def textArea (paragraph : Paragraph) (area : Area) : Area :=
  match paragraph.box with
  | some box => box.inside area
  | none => area

/-- Draws all but the text of a paragraph. -/
def drawFrame (paragraph : Paragraph) (area : Area) (canvas : Canvas) : Canvas :=
  match paragraph.box with
  | some box => box.draw (canvas.fill area paragraph.style) area
  | none => canvas.fill area paragraph.style

/-- Draws the text of a paragraph. -/
def drawText (paragraph : Paragraph) (text : Area) (canvas : Canvas) : Canvas :=
  (text.rows.zip ((paragraph.rows text.width).take text.height)).foldl (fun canvas (y, glyphs) =>
    drawRow y (text.x + blanks paragraph.alignment text.width (glyphColumns glyphs)) canvas glyphs)
    canvas

/-- No glyph of a row that is seen begins at column `stop` or behind. -/
def Contained (paragraph : Paragraph) (text : Area) (stop : Nat) : Prop :=
  text.isEmpty = true ∨ ∀ row ∈ (paragraph.rows text.width).take text.height,
    BeginBefore stop (text.x + blanks paragraph.alignment text.width (glyphColumns row)) row

instance (paragraph : Paragraph) (text : Area) (stop : Nat) :
    Decidable (paragraph.Contained text stop) :=
  inferInstanceAs (Decidable (_ ∨ _))

theorem draw_eq (paragraph : Paragraph) (canvas : Canvas) (area : Area) :
    paragraph.draw canvas area =
      let part := area.clip canvas.area
      if (paragraph.textArea part).isEmpty then paragraph.drawFrame part canvas
      else paragraph.drawText (paragraph.textArea part) (paragraph.drawFrame part canvas) := by
  obtain ⟨lines, style, alignment, box, wraps⟩ := paragraph
  cases box <;> rfl

theorem draws_drawFrame (paragraph : Paragraph) (area : Area) :
    Canvas.Draws bounds (fun stroke => area.Holds stroke.x stroke.y)
      (paragraph.drawFrame area) := by
  have hfill : Canvas.Draws bounds (fun stroke => area.Holds stroke.x stroke.y) fun canvas =>
      canvas.fill area paragraph.style :=
    (Canvas.draws_fill area paragraph.style).mono fun _ hs => hs.1
  unfold drawFrame
  cases paragraph.box with
  | none => exact hfill
  | some box =>
      exact hfill.andThen ((box.draws area).mono fun _ hs => (Area.holds_clip.mp hs.1.1).1)

/-- The text of a paragraph lies on the canvas, unless it has no cells. -/
theorem textArea_within (paragraph : Paragraph) (area bounds : Area)
    (h : (paragraph.textArea (area.clip bounds)).isEmpty = false) :
    (paragraph.textArea (area.clip bounds)).Within bounds := by
  obtain ⟨lines, style, alignment, box, wraps⟩ := paragraph
  obtain ⟨hwidth, hheight⟩ := Area.isEmpty_eq_false.mp h
  cases box with
  | none =>
      simp only [Area.Within, textArea, Area.clip, Area.right, Area.bottom] at hwidth hheight ⊢
      omega
  | some box =>
      simp only [Area.Within, textArea, Box.inside, Area.padded, Area.inside, Area.clip, Area.right,
        Area.bottom] at hwidth hheight ⊢
      omega

/-- Rows are drawn beside the canvas just where one of their glyphs begins there. -/
theorem intact_rows {items : List (Nat × List Glyph)} (start : List Glyph → Nat)
    (hrows : ∀ item ∈ items, item.1 < canvas.height) :
    (items.foldl (fun canvas (y, glyphs) => drawRow y (start glyphs) canvas glyphs) canvas).intact =
        true ↔
      canvas.intact = true ∧ ∀ item ∈ items, BeginBefore canvas.width (start item.2) item.2 := by
  induction items generalizing canvas with
  | nil => simp
  | cons item items ih =>
      obtain ⟨hrow, hmore⟩ := List.forall_mem_cons.mp hrows
      obtain ⟨hwidth, hheight⟩ :=
        Canvas.size_of_area (area_drawRow item.1 (start item.2) canvas item.2)
      rw [List.foldl_cons, ih (hheight ▸ hmore), intact_drawRow hrow, hwidth, List.forall_mem_cons,
        and_assoc]

theorem intact_drawText (paragraph : Paragraph) {text : Area} (h : text.bottom ≤ canvas.height) :
    (paragraph.drawText text canvas).intact = true ↔ canvas.intact = true ∧
      ∀ row ∈ (paragraph.rows text.width).take text.height,
        BeginBefore canvas.width
          (text.x + blanks paragraph.alignment text.width (glyphColumns row)) row := by
  have hlength : ((paragraph.rows text.width).take text.height).length ≤ text.rows.length := by
    simp only [List.length_take, Area.rows, List.length_range']
    exact Nat.min_le_left ..
  have hitems := @intact_rows canvas
    (text.rows.zip ((paragraph.rows text.width).take text.height))
    (fun row => text.x + blanks paragraph.alignment text.width (glyphColumns row))
    fun item hitem => Nat.lt_of_lt_of_le (Area.mem_rows.mp (List.of_mem_zip hitem).1).2 h
  rw [← List.map_snd_zip hlength, List.forall_mem_map]
  exact hitems

theorem area_drawText (paragraph : Paragraph) (text : Area) (canvas : Canvas) :
    (paragraph.drawText text canvas).area = canvas.area := by
  unfold drawText
  generalize text.rows.zip ((paragraph.rows text.width).take text.height) = items
  induction items generalizing canvas with
  | nil => rfl
  | cons item items ih =>
      rw [List.foldl_cons, ih]
      exact area_drawRow ..

theorem area_draw (paragraph : Paragraph) (canvas : Canvas) (area : Area) :
    (paragraph.draw canvas area).area = canvas.area := by
  have hframe : (paragraph.drawFrame (area.clip canvas.area) canvas).area = canvas.area :=
    (paragraph.draws_drawFrame _).area rfl
  rw [draw_eq]
  simp only
  split
  · exact hframe
  · rw [area_drawText, hframe]

/-- A paragraph is drawn beside the canvas just where a glyph of a row that is seen begins there. -/
theorem intact_draw (paragraph : Paragraph) (canvas : Canvas) (area : Area) :
    (paragraph.draw canvas area).intact = true ↔ canvas.intact = true ∧
      paragraph.Contained (paragraph.textArea (area.clip canvas.area)) canvas.width := by
  have hframe : Canvas.Draws canvas.area _ (paragraph.drawFrame (area.clip canvas.area)) :=
    paragraph.draws_drawFrame _
  have hintact := hframe.intact rfl fun _ hs => (Area.holds_clip.mp hs).2
  obtain ⟨hwidth, hheight⟩ := Canvas.size_of_area (hframe.area rfl)
  rw [draw_eq]
  cases hempty : (paragraph.textArea (area.clip canvas.area)).isEmpty with
  | true => simp only [if_true, hintact, Contained, hempty, true_or, and_true]
  | false =>
      have hbottom := (paragraph.textArea_within area canvas.area hempty).2.2.2
      rw [Canvas.bottom_area] at hbottom
      simp only [Bool.false_eq_true, if_false, Contained, hempty, false_or]
      rw [intact_drawText _ (hheight ▸ hbottom), hintact, hwidth]

/-- A row that is no longer than its area begins where it must for any alignment. -/
theorem beginBefore_of_fits {text : Area} {row : List Glyph} (alignment : Alignment)
    (hright : text.right ≤ stop) (hrow : glyphColumns row ≤ text.width) :
    BeginBefore stop (text.x + blanks alignment text.width (glyphColumns row)) row := by
  refine beginBefore_of_le ?_
  simp only [Area.right] at hright
  unfold blanks
  split <;> omega

/-- The rows of a paragraph that cuts long lines never leave its area. -/
theorem contained_of_cuts (paragraph : Paragraph) (h : paragraph.wraps = false) {text : Area}
    (hright : text.right ≤ stop) : paragraph.Contained text stop := by
  refine Or.inr fun row hrow => beginBefore_of_fits _ hright ?_
  have hmem := List.mem_of_mem_take hrow
  simp only [rows, h, Bool.false_eq_true, if_false, List.mem_map] at hmem
  obtain ⟨glyphs, -, rfl⟩ := hmem
  exact glyphColumns_cutGlyphs_le ..

theorem intact_draw_of_cuts (paragraph : Paragraph) (h : paragraph.wraps = false) (canvas : Canvas)
    (area : Area) : (paragraph.draw canvas area).intact = true ↔ canvas.intact = true := by
  rw [intact_draw]
  refine and_iff_left ?_
  cases hempty : (paragraph.textArea (area.clip canvas.area)).isEmpty with
  | true => exact Or.inl hempty
  | false =>
      have hright := (paragraph.textArea_within area canvas.area hempty).2.1
      rw [Canvas.right_area] at hright
      exact paragraph.contained_of_cuts h hright

end Paragraph

end HomeConsole
