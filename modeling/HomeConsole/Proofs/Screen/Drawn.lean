import HomeConsole.Proofs.Screen.Strokes
import HomeConsole.Screen.Box
import Mathlib.Data.List.Zip

/-!
# Where lines and boxes are drawn

A text is drawn within the part of its area that lies on the canvas, and in its own styles; a box
leaves the cells inside it alone. So neither ever asks for a cell beside the canvas.
-/

namespace HomeConsole

/-! ## Areas -/

namespace Area

variable {area bounds : Area} {x y n : Nat}

/-- What two runs of columns, or of rows, have in common. -/
theorem overlap_iff {a n b m x : Nat} :
    (max a b ≤ x ∧ x < max a b + (min (a + n) (b + m) - max a b)) ↔
      (a ≤ x ∧ x < a + n) ∧ b ≤ x ∧ x < b + m := by
  omega

theorem holds_clip : (area.clip bounds).Holds x y ↔ area.Holds x y ∧ bounds.Holds x y := by
  constructor
  · rintro ⟨hleft, hright, htop, hbottom⟩
    obtain ⟨hx, hx'⟩ := overlap_iff.mp ⟨hleft, hright⟩
    obtain ⟨hy, hy'⟩ := overlap_iff.mp ⟨htop, hbottom⟩
    exact ⟨⟨hx.1, hx.2, hy⟩, hx'.1, hx'.2, hy'⟩
  · rintro ⟨⟨hleft, hright, hy⟩, hleft', hright', hy'⟩
    obtain ⟨hx, hx'⟩ := overlap_iff.mpr ⟨⟨hleft, hright⟩, hleft', hright'⟩
    exact ⟨hx, hx', overlap_iff.mpr ⟨hy, hy'⟩⟩

theorem Holds.of_indent (h : (area.indent n).Holds x y) : area.Holds x y := by
  simp only [Holds, indent, right, bottom] at h ⊢
  omega

theorem Holds.of_inside (h : area.inside.Holds x y) : area.Holds x y := by
  simp only [Holds, inside, right, bottom] at h ⊢
  omega

theorem Holds.of_padded (h : (area.padded n).Holds x y) : area.Holds x y := by
  simp only [Holds, padded, right, bottom] at h ⊢
  omega

theorem Holds.clip_indent (h : ((area.indent n).clip bounds).Holds x y) :
    (area.clip bounds).Holds x y :=
  have hboth : (area.indent n).Holds x y ∧ bounds.Holds x y := holds_clip.mp h
  holds_clip.mpr ⟨hboth.1.of_indent, hboth.2⟩

theorem mem_rows : y ∈ area.rows ↔ area.y ≤ y ∧ y < area.bottom := by
  simp [rows, bottom]

theorem mem_columns : x ∈ area.columns ↔ area.x ≤ x ∧ x < area.right := by
  simp [columns, right]

theorem getElem?_rows (area : Area) {k : Nat} (h : k < area.height) :
    area.rows[k]? = some (area.y + k) := by
  rw [rows, List.getElem?_range' h, Nat.one_mul]

/-- No two of the items that are drawn one below the other are drawn in the same row. -/
theorem nodup_zip_rows {α : Type} (items : List α) (area : Area) :
    ((items.zip area.rows).map Prod.snd).Nodup := by
  rw [List.zip_eq_zip_take_min, List.map_snd_zip]
  · exact List.Nodup.sublist (List.take_sublist ..) List.nodup_range'
  · simp only [List.length_take]
    omega

theorem nodup_rows_zip {α : Type} (area : Area) (items : List α) :
    ((area.rows.zip items).map Prod.fst).Nodup := by
  rw [← List.zip_swap, List.map_map]
  exact nodup_zip_rows items area

theorem isEmpty_eq_false : area.isEmpty = false ↔ 0 < area.width ∧ 0 < area.height := by
  simp only [isEmpty, Bool.or_eq_false_iff, beq_eq_false_iff_ne, Nat.pos_iff_ne_zero]

theorem indent_zero (area : Area) : area.indent 0 = area := by
  simp [indent]

/-- An area has no cell beside another one. -/
def Within (area bounds : Area) : Prop :=
  bounds.x ≤ area.x ∧ area.right ≤ bounds.right ∧ bounds.y ≤ area.y ∧ area.bottom ≤ bounds.bottom

theorem Within.clip_eq (h : area.Within bounds) : area.clip bounds = area := by
  obtain ⟨hleft, hright, htop, hbottom⟩ := h
  have hx : max area.x bounds.x = area.x := Nat.max_eq_left hleft
  have hy : max area.y bounds.y = area.y := Nat.max_eq_left htop
  have hr : min area.right bounds.right = area.x + area.width := Nat.min_eq_left hright
  have hb : min area.bottom bounds.bottom = area.y + area.height := Nat.min_eq_left hbottom
  simp only [clip, hx, hy, hr, hb, Nat.add_sub_cancel_left]

theorem Within.holds (h : area.Within bounds) (hin : area.Holds x y) : bounds.Holds x y :=
  ⟨Nat.le_trans h.1 hin.1, Nat.lt_of_lt_of_le hin.2.1 h.2.1, Nat.le_trans h.2.2.1 hin.2.2.1,
    Nat.lt_of_lt_of_le hin.2.2.2 h.2.2.2⟩

end Area

/-! ## Styles -/

/-- A stroke empties a cell or lays one of some styles over it. -/
def Stroke.Uses (styles : Style → Prop) (stroke : Stroke) : Prop :=
  ∀ cell, (stroke.change cell).style = .plain ∨
    ∃ style, styles style ∧ (stroke.change cell).style = style.onto cell.style

/-- A stroke stays in an area, and in some styles. -/
def Stroke.Inks (area : Area) (styles : Style → Prop) (stroke : Stroke) : Prop :=
  area.Holds stroke.x stroke.y ∧ stroke.Uses styles

namespace Stroke

variable {x y : Nat} {symbol : String} {style : Style} {styles styles' : Style → Prop}
  {area area' : Area} {stroke : Stroke}

theorem uses_put (h : styles style) : Uses styles ⟨x, y, (·.put symbol style)⟩ :=
  fun _ => Or.inr ⟨style, h, rfl⟩

theorem uses_add (h : styles style) : Uses styles ⟨x, y, (·.add symbol style)⟩ :=
  fun _ => Or.inr ⟨style, h, rfl⟩

theorem uses_styled (h : styles style) : Uses styles ⟨x, y, (·.styled style)⟩ :=
  fun _ => Or.inr ⟨style, h, rfl⟩

theorem uses_clear : Uses styles ⟨x, y, fun _ => .blank⟩ :=
  fun _ => Or.inl rfl

theorem Uses.mono (h : Uses styles stroke) (hstyles : ∀ style, styles style → styles' style) :
    Uses styles' stroke := by
  intro cell
  rcases h cell with hplain | ⟨style, hstyle, heq⟩
  · exact Or.inl hplain
  · exact Or.inr ⟨style, hstyles style hstyle, heq⟩

theorem Inks.mono (h : Inks area styles stroke)
    (harea : ∀ x y, area.Holds x y → area'.Holds x y)
    (hstyles : ∀ style, styles style → styles' style) : Inks area' styles' stroke :=
  ⟨harea _ _ h.1, h.2.mono hstyles⟩

end Stroke

/-! ## Texts -/

namespace Span

variable {span : Span} {glyph : Glyph}

theorem style_of_mem_glyphs (h : glyph ∈ span.glyphs) : glyph.style = span.style := by
  obtain ⟨_, _, rfl⟩ := List.mem_map.mp h
  rfl

end Span

namespace Line

theorem style_of_mem_after {line : Line} {skip blanks columns : Nat} {span : Span}
    (h : (blanks, columns, span) ∈ line.after skip) : ∃ part ∈ line, span.style = part.style := by
  induction line generalizing skip with
  | nil => cases h
  | cons first line ih =>
      have hmore : ∀ {skip}, (blanks, columns, span) ∈ Line.after skip line →
          ∃ part ∈ first :: line, span.style = part.style := by
        intro skip hlater
        obtain ⟨part, hpart, hstyle⟩ := ih hlater
        exact ⟨part, List.mem_cons_of_mem first hpart, hstyle⟩
      simp only [after] at h
      split at h
      · exact hmore h
      · split at h
        · rcases List.mem_cons.mp h with heq | hlater
          · cases heq
            exact ⟨_, List.mem_cons_self, rfl⟩
          · exact hmore hlater
        · rcases List.mem_cons.mp h with heq | hlater
          · simp only [Prod.mk.injEq] at heq
            obtain ⟨-, -, rfl⟩ := heq
            exact ⟨first, List.mem_cons_self, rfl⟩
          · exact hmore hlater

end Line

namespace Canvas

variable {bounds area : Area} {styles : Style → Prop} {may : Stroke → Prop} {x y n : Nat}
  {symbol : String} {style : Style}

/-! ## Runs of cells -/

theorem draws_putRow (h : ∀ column, x ≤ column → column < x + n →
      may ⟨column, y, (·.put symbol style)⟩) :
    Draws bounds may fun canvas => canvas.putRow x y n symbol style :=
  .foldl fun column hcolumn => by
    rw [List.mem_range'_1] at hcolumn
    exact .modify (h column hcolumn.1 hcolumn.2)

theorem draws_putColumn (h : ∀ row, y ≤ row → row < y + n →
      may ⟨x, row, (·.put symbol style)⟩) :
    Draws bounds may fun canvas => canvas.putColumn x y n symbol style :=
  .foldl fun row hrow => by
    rw [List.mem_range'_1] at hrow
    exact .modify (h row hrow.1 hrow.2)

theorem draws_clearRow (h : ∀ column, x ≤ column → column < x + n →
      may ⟨column, y, fun _ => .blank⟩) :
    Draws bounds may fun canvas => canvas.clearRow x y n :=
  .foldl fun column hcolumn => by
    rw [List.mem_range'_1] at hcolumn
    exact .modify (h column hcolumn.1 hcolumn.2)

theorem draws_fill (area : Area) (style : Style) :
    Draws bounds (Stroke.Inks area (· = style)) fun canvas => canvas.fill area style :=
  .foldl fun row hrow => .foldl fun column hcolumn =>
    have hholds : area.Holds column row :=
      ⟨(Area.mem_columns.mp hcolumn).1, (Area.mem_columns.mp hcolumn).2,
        (Area.mem_rows.mp hrow).1, (Area.mem_rows.mp hrow).2⟩
    .modify ⟨hholds, Stroke.uses_styled rfl⟩

/-! ## Texts on a canvas -/

/-- Glyphs are drawn between the first column and the one to stop at. -/
theorem draws_drawGlyphs (y start stop x : Nat) (first : Bool) (glyphs : List Glyph)
    (hne : start < stop) (hstart : start ≤ x) (hstop : x ≤ stop) (hfirst : first = true → x = start)
    (hstyles : ∀ glyph ∈ glyphs, styles glyph.style) :
    Draws bounds (Stroke.Inks ⟨start, y, stop - start, 1⟩ styles)
      fun canvas => drawGlyphs y start stop x first canvas glyphs := by
  have hholds : ∀ column, start ≤ column → column < stop →
      (⟨start, y, stop - start, 1⟩ : Area).Holds column y := by
    intro column hlow hhigh
    simp only [Area.Holds, Area.right, Area.bottom]
    omega
  induction glyphs generalizing x first with
  | nil => exact .nothing
  | cons glyph glyphs ih =>
      obtain ⟨hglyph, hglyphs⟩ := List.forall_mem_cons.mp hstyles
      by_cases hroom : x + glyph.columns > stop
      · refine Draws.nothing.congr fun canvas _ => ?_
        simp only [drawGlyphs, if_pos hroom]
      · have hput : Draws bounds (Stroke.Inks ⟨start, y, stop - start, 1⟩ styles) fun canvas =>
            if first then canvas.modify x y (·.put glyph.symbol glyph.style)
            else if x = start then canvas.modify x y (·.add glyph.symbol glyph.style)
            else if glyph.columns = 0 then
              canvas.modify (x - 1) y (·.add glyph.symbol glyph.style)
            else canvas.modify x y (·.put glyph.symbol glyph.style) := by
          split
          · rename_i hf
            have := hfirst hf
            exact .modify ⟨hholds x hstart (by omega), Stroke.uses_put hglyph⟩
          · split
            · exact .modify ⟨hholds x hstart (by omega), Stroke.uses_add hglyph⟩
            · split
              · exact .modify ⟨hholds (x - 1) (by omega) (by omega), Stroke.uses_add hglyph⟩
              · exact .modify ⟨hholds x hstart (by omega), Stroke.uses_put hglyph⟩
        have hclear : Draws bounds (Stroke.Inks ⟨start, y, stop - start, 1⟩ styles) fun canvas =>
            canvas.clearRow (x + 1) y (glyph.columns - 1) :=
          draws_clearRow fun column hlow hhigh =>
            ⟨hholds column (by omega) (by omega), Stroke.uses_clear⟩
        have hrest := ih (x + glyph.columns) false (by omega) (by omega)
          (fun hf => absurd hf Bool.false_ne_true) hglyphs
        refine ((hput.andThen hclear).andThen hrest).congr fun canvas _ => ?_
        simp only [drawGlyphs, if_neg hroom]

theorem draws_drawSpan (area : Area) (span : Span) :
    Draws bounds (Stroke.Inks (area.clip bounds) (· = span.style))
      fun canvas => canvas.drawSpan area span := by
  cases hempty : (area.clip bounds).isEmpty with
  | true =>
      refine Draws.nothing.congr fun canvas hc => ?_
      simp only [drawSpan, hc, hempty, if_true]
  | false =>
      obtain ⟨hwidth, hheight⟩ := Area.isEmpty_eq_false.mp hempty
      have hright : (area.clip bounds).x < (area.clip bounds).right := by
        simp only [Area.right]
        omega
      refine ((draws_drawGlyphs (area.clip bounds).y _ _ _ true span.glyphs hright (Nat.le_refl _)
        (Nat.le_of_lt hright) (fun _ => rfl) fun _ => Span.style_of_mem_glyphs).congr
          fun canvas hc => ?_).mono fun stroke hs => hs.mono ?_ fun _ h => h
      · simp only [drawSpan, hc, hempty, Bool.false_eq_true, if_false]
      · intro x y
        simp only [Area.Holds, Area.right, Area.bottom]
        omega

theorem draws_drawSpans (area : Area) (spans : List (Nat × Nat × Span))
    (hstyles : ∀ entry ∈ spans, styles entry.2.2.style) :
    Draws bounds (Stroke.Inks (area.clip bounds) styles)
      fun canvas => drawSpans area canvas spans := by
  induction spans generalizing area with
  | nil => exact .nothing
  | cons entry spans ih =>
      obtain ⟨blanks, columns, span⟩ := entry
      obtain ⟨hspan, hspans⟩ := List.forall_mem_cons.mp hstyles
      cases hempty : (area.indent blanks).isEmpty with
      | true =>
          refine Draws.nothing.congr fun canvas _ => ?_
          simp only [drawSpans, hempty, if_true]
      | false =>
          have hfirst : Draws bounds (Stroke.Inks (area.clip bounds) styles)
              fun canvas => canvas.drawSpan (area.indent blanks) span :=
            (draws_drawSpan _ span).mono fun stroke hs =>
              hs.mono (fun _ _ h => h.clip_indent) fun _ h => h ▸ hspan
          have hrest := (ih ((area.indent blanks).indent columns) hspans).mono fun stroke hs =>
            hs.mono (fun _ _ h => h.clip_indent.clip_indent) fun _ h => h
          refine (hfirst.andThen hrest).congr fun canvas _ => ?_
          simp only [drawSpans, hempty, Bool.false_eq_true, if_false]

/-- A line is drawn within its area, in the styles of its spans. -/
theorem draws_drawLine (area : Area) (line : Line) (alignment : Alignment) :
    Draws bounds (Stroke.Inks (area.clip bounds) fun style => ∃ span ∈ line, style = span.style)
      fun canvas => canvas.drawLine area line alignment := by
  have hspans : ∀ (part : Area) (skip : Nat),
      (∀ x y, (part.clip bounds).Holds x y → (area.clip bounds).Holds x y) →
      Draws bounds (Stroke.Inks (area.clip bounds) fun style => ∃ span ∈ line, style = span.style)
        fun canvas => drawSpans part canvas (line.after skip) := fun part skip hpart =>
    (draws_drawSpans part (line.after skip) fun _ h => Line.style_of_mem_after h).mono
      fun _ hs => hs.mono hpart fun _ h => h
  by_cases hnone : (area.clip bounds).isEmpty = true ∨ line.columns = 0
  · refine Draws.nothing.congr fun canvas hc => ?_
    simp only [drawLine, hc, if_pos hnone]
  · by_cases hfits : line.columns ≤ (area.clip bounds).width
    · have hindented := fun blanks => hspans ((area.clip bounds).indent blanks) 0
        fun x y h => (Area.holds_clip.mp h).1.of_indent
      let free := (area.clip bounds).width - line.columns
      cases alignment with
      | left =>
          refine (hindented 0).congr fun canvas hc => ?_
          simp only [drawLine, hc, if_neg hnone, if_pos hfits]
      | center =>
          refine (hindented (free / 2)).congr fun canvas hc => ?_
          simp only [drawLine, hc, if_neg hnone, if_pos hfits, free]
      | right =>
          refine (hindented free).congr fun canvas hc => ?_
          simp only [drawLine, hc, if_neg hnone, if_pos hfits, free]
    · have hcut := fun skip => hspans (area.clip bounds) skip
        fun x y h => (Area.holds_clip.mp h).1
      let excess := line.columns - (area.clip bounds).width
      cases alignment with
      | left =>
          refine (hcut 0).congr fun canvas hc => ?_
          simp only [drawLine, hc, if_neg hnone, if_neg hfits]
      | center =>
          refine (hcut (excess / 2)).congr fun canvas hc => ?_
          simp only [drawLine, hc, if_neg hnone, if_neg hfits, excess]
      | right =>
          refine (hcut excess).congr fun canvas hc => ?_
          simp only [drawLine, hc, if_neg hnone, if_neg hfits, excess]

end Canvas

/-! ## Boxes -/

namespace Box

variable {bounds area : Area}

/-- A stroke stays on the border around an area, in the style of the border or in none. -/
def Rims (box : Box) (area : Area) (stroke : Stroke) : Prop :=
  stroke.Inks area (fun style => style = box.borderStyle ∨ style = .plain) ∧
    ¬ (box.inside area).Holds stroke.x stroke.y

theorem not_inside_of_not (box : Box) {x y : Nat} (h : ¬ area.inside.Holds x y) :
    ¬ (box.inside area).Holds x y :=
  fun hin => h hin.of_padded

theorem draws_drawBorder (box : Box) (h : area.isEmpty = false) :
    Canvas.Draws bounds (box.Rims area) fun canvas => box.drawBorder canvas area := by
  obtain ⟨hwidth, hheight⟩ := Area.isEmpty_eq_false.mp h
  have hrims : ∀ (x y : Nat) (symbol : String), area.Holds x y → ¬ area.inside.Holds x y →
      box.Rims area ⟨x, y, (·.put symbol box.borderStyle)⟩ := fun x y symbol hin hrim =>
    ⟨⟨hin, Stroke.uses_put (Or.inl rfl)⟩, box.not_inside_of_not hrim⟩
  have hcell : ∀ (x y : Nat) (symbol : String), area.Holds x y → ¬ area.inside.Holds x y →
      Canvas.Draws bounds (box.Rims area)
        fun canvas => canvas.modify x y (·.put symbol box.borderStyle) :=
    fun x y symbol hin hrim => .modify (hrims x y symbol hin hrim)
  have hcolumn : ∀ (x : Nat) (symbol : String), x = area.x ∨ x = area.right - 1 →
      Canvas.Draws bounds (box.Rims area) fun canvas =>
        canvas.putColumn x (area.y + 1) (area.height - 2) symbol box.borderStyle := by
    intro x symbol hx
    refine Canvas.draws_putColumn fun row hlow hhigh => hrims x row symbol ?_ ?_
    all_goals
      simp only [Area.Holds, Area.inside, Area.right, Area.bottom] at hx ⊢
      omega
  have hrow : ∀ (y : Nat) (symbol : String), y = area.y ∨ y = area.bottom - 1 →
      Canvas.Draws bounds (box.Rims area) fun canvas =>
        canvas.putRow (area.x + 1) y (area.width - 2) symbol box.borderStyle := by
    intro y symbol hy
    refine Canvas.draws_putRow fun column hlow hhigh => hrims column y symbol ?_ ?_
    all_goals
      simp only [Area.Holds, Area.inside, Area.right, Area.bottom] at hy ⊢
      omega
  have hcorner : ∀ (x y : Nat) (symbol : String), x = area.x ∨ x = area.right - 1 →
      y = area.y ∨ y = area.bottom - 1 → Canvas.Draws bounds (box.Rims area) fun canvas =>
        canvas.modify x y (·.put symbol box.borderStyle) := by
    intro x y symbol hx hy
    refine hcell x y symbol ?_ ?_
    all_goals
      simp only [Area.Holds, Area.inside, Area.right, Area.bottom] at hx hy ⊢
      omega
  exact (((((((hcolumn _ _ (Or.inl rfl)).andThen (hrow _ _ (Or.inl rfl))).andThen
    (hcolumn _ _ (Or.inr rfl))).andThen (hrow _ _ (Or.inr rfl))).andThen
    (hcorner _ _ _ (Or.inr rfl) (Or.inr rfl))).andThen
    (hcorner _ _ _ (Or.inr rfl) (Or.inl rfl))).andThen
    (hcorner _ _ _ (Or.inl rfl) (Or.inr rfl))).andThen
    (hcorner _ _ _ (Or.inl rfl) (Or.inl rfl))

/-- A title in the top or in the bottom line stays on the border. -/
theorem draws_title (box : Box) (part : Area) {y : Nat} (text : String) (alignment : Alignment)
    (h : area.isEmpty = false) (hy : y = area.y ∨ y = area.bottom - 1) (hpart : part.y = y)
    (hheight : part.height ≤ 1) (hleft : area.x ≤ part.x) (hright : part.right ≤ area.right) :
    Canvas.Draws bounds (box.Rims area)
      fun canvas => canvas.drawLine part [⟨text, .plain⟩] alignment := by
  obtain ⟨hwidth, hheight'⟩ := Area.isEmpty_eq_false.mp h
  refine (Canvas.draws_drawLine part _ alignment).mono fun stroke hs => ⟨hs.mono ?_ ?_, ?_⟩
  · intro x y' hin
    have hin := (Area.holds_clip.mp hin).1
    simp only [Area.Holds, Area.right, Area.bottom] at hin hy hright ⊢
    omega
  · rintro style ⟨span, hspan, rfl⟩
    cases List.mem_singleton.mp hspan
    exact Or.inr rfl
  · refine box.not_inside_of_not ?_
    have hin := (Area.holds_clip.mp hs.1).1
    simp only [Area.Holds, Area.inside, Area.right, Area.bottom] at hin hy ⊢
    omega

theorem draws_drawTitle (box : Box) (h : area.isEmpty = false) :
    Canvas.Draws bounds (box.Rims area) fun canvas => box.drawTitle canvas area := by
  cases hfree : (titleArea area area.y).isEmpty with
  | true =>
      refine Canvas.Draws.nothing.congr fun canvas _ => ?_
      simp only [drawTitle, hfree, if_true]
  | false =>
      obtain ⟨hwidth, -⟩ := Area.isEmpty_eq_false.mp hfree
      simp only [titleArea] at hwidth
      refine (box.draws_title { titleArea area area.y with
        width := min (Line.columns [⟨box.title, .plain⟩]) (titleArea area area.y).width }
        box.title .left h (Or.inl rfl) rfl (Nat.le_refl 1) ?_ ?_).congr fun canvas _ => ?_
      · exact Nat.le_succ _
      · simp only [titleArea, Area.right]
        omega
      · simp only [drawTitle, hfree, Bool.false_eq_true, if_false]

theorem draws_drawFooter (box : Box) (text : String) (h : area.isEmpty = false) :
    Canvas.Draws bounds (box.Rims area) fun canvas => drawFooter canvas area text := by
  obtain ⟨hinhabited, -⟩ := Area.isEmpty_eq_false.mp h
  by_cases hfits : Line.columns [⟨text, .plain⟩] ≤ (titleArea area (area.bottom - 1)).width
  · refine (box.draws_title ⟨(titleArea area (area.bottom - 1)).x +
      ((titleArea area (area.bottom - 1)).width - Line.columns [⟨text, .plain⟩]) / 2,
      (titleArea area (area.bottom - 1)).y, Line.columns [⟨text, .plain⟩], 1⟩ text .left h
        (Or.inr rfl) rfl (Nat.le_refl 1) ?_ ?_).congr fun canvas _ => ?_
    · simp only [titleArea]
      omega
    · simp only [titleArea, Area.right] at hfits ⊢
      omega
    · simp only [drawFooter, if_pos hfits]
  · cases hfree : (titleArea area (area.bottom - 1)).isEmpty with
    | true =>
        refine Canvas.Draws.nothing.congr fun canvas _ => ?_
        simp only [drawFooter, if_neg hfits, hfree, if_true]
    | false =>
        obtain ⟨hwidth, -⟩ := Area.isEmpty_eq_false.mp hfree
        simp only [titleArea] at hwidth
        let cut := (Line.columns [⟨text, .plain⟩] - (titleArea area (area.bottom - 1)).width) / 2
        refine (box.draws_title { titleArea area (area.bottom - 1) with
          width := (titleArea area (area.bottom - 1)).width - cut } text
          (if cut = 0 then .left else .right) h (Or.inr rfl) rfl (Nat.le_refl 1) (Nat.le_succ _)
          ?_).congr fun canvas _ => ?_
        · simp only [titleArea, Area.right]
          omega
        · simp only [drawFooter, if_neg hfits, hfree, Bool.false_eq_true, if_false, cut]

/-- A box is drawn on the border of its area alone. -/
theorem draws (box : Box) (area : Area) :
    Canvas.Draws bounds (box.Rims (area.clip bounds)) fun canvas => box.draw canvas area := by
  cases hempty : (area.clip bounds).isEmpty with
  | true =>
      refine Canvas.Draws.nothing.congr fun canvas hc => ?_
      simp only [draw, hc, hempty, if_true]
  | false =>
      have hborder : Canvas.Draws bounds (box.Rims (area.clip bounds)) fun canvas =>
          box.drawBorder canvas (area.clip bounds) := box.draws_drawBorder hempty
      have htitle : Canvas.Draws bounds (box.Rims (area.clip bounds)) fun canvas =>
          box.drawTitle canvas (area.clip bounds) := box.draws_drawTitle hempty
      have hfront := hborder.andThen htitle
      cases hfooter : box.footer with
      | none =>
          refine hfront.congr fun canvas hc => ?_
          simp only [draw, hc, hempty, Bool.false_eq_true, if_false, hfooter]
      | some text =>
          have hfooter' : Canvas.Draws bounds (box.Rims (area.clip bounds)) fun canvas =>
              drawFooter canvas (area.clip bounds) text := box.draws_drawFooter text hempty
          refine (hfront.andThen hfooter').congr fun canvas hc => ?_
          simp only [draw, hc, hempty, Bool.false_eq_true, if_false, hfooter]

end Box

end HomeConsole
