import HomeConsole.Proofs.Screen.Rows
import HomeConsole.Screen.Scroll
import HomeConsole.Screen.Window

/-!
# Drawing what is scrolled

Drawing moves a view no further than it must, so once it was drawn it stays where it is. A view and
the bar beside it are drawn within their area, however small that is.
-/

namespace HomeConsole

/-! ## Where a view comes to rest -/

namespace Scroll

theorem offset_settle (scroll : Scroll) (lines height : Nat) :
    (scroll.settle lines height).offset.toNat = min scroll.offset.toNat (lines - height) := by
  have hword : min scroll.offset.toNat (lines - height) < 2 ^ 16 :=
    Nat.lt_of_le_of_lt (Nat.min_le_left ..) scroll.offset.toNat_lt
  rw [settle, Nat.toUInt16_eq, UInt16.toNat_ofNat', Nat.mod_eq_of_lt hword]

theorem settle_settle (scroll : Scroll) (lines height : Nat) :
    (scroll.settle lines height).settle lines height = scroll.settle lines height := by
  rw [settle, offset_settle, Nat.min_assoc, Nat.min_self]
  rfl

theorem offset_down (scroll : Scroll) :
    scroll.down.offset.toNat = min (scroll.offset.toNat + 1) 65535 := by
  have hword := scroll.offset.toNat_lt
  have hsum : (scroll.offset + 1).toNat = (scroll.offset.toNat + 1) % 65536 :=
    UInt16.toNat_add scroll.offset 1
  simp only [down, UInt16.addUpTo, UInt16.lt_iff_toNat_lt, hsum]
  split
  · show 65535 = _
    omega
  · rw [hsum]
    omega

end Scroll

namespace Window

variable {row first count height : Nat}

/-- A window that holds the chosen row stays where it is. -/
theorem around_of_seen (hfirst : first ≤ row) (hlast : row < first + height) (hrow : row < count) :
    around (some row) first count height = ⟨first, min (first + height) count - first⟩ := by
  have hsame : min first (count - 1) = first := by omega
  have hstop : ¬ min (first + height) count ≤ row := by omega
  simp only [around, hsame, if_neg hstop, if_neg (Nat.not_lt_of_le hfirst)]

/-- Wherever the window was, it comes to hold the chosen row. -/
theorem seen_of_around (hrow : row < count) (hheight : 0 < height) (first : Nat) :
    ∃ next, around (some row) first count height = ⟨next, min (next + height) count - next⟩ ∧
      next ≤ row ∧ row < next + height := by
  simp only [around]
  split
  · refine ⟨row + 1 - height, ?_, by omega, by omega⟩
    rw [Window.mk.injEq]
    omega
  · split
    · refine ⟨row, ?_, Nat.le_refl row, by omega⟩
      rw [Window.mk.injEq]
      omega
    · exact ⟨min first (count - 1), rfl, by omega, by omega⟩

theorem around_around (hrow : row < count) (hheight : 0 < height) (first : Nat) :
    around (some row) (around (some row) first count height).first count height =
      around (some row) first count height := by
  obtain ⟨next, hnext, hfirst, hlast⟩ := seen_of_around hrow hheight first
  rw [hnext]
  exact around_of_seen hfirst hlast hrow

end Window

namespace Canvas

variable {bounds area : Area}

/-! ## Staying on the canvas -/

/-- A way of drawing on canvases of some bounds asks for no cell beside them. -/
def Stays (bounds : Area) (draw : Canvas → Canvas) : Prop :=
  ∀ canvas : Canvas, canvas.area = bounds →
    (draw canvas).area = bounds ∧ ((draw canvas).intact = true ↔ canvas.intact = true)

theorem Draws.stays {may : Stroke → Prop} {draw : Canvas → Canvas} (h : Draws bounds may draw)
    (hmay : ∀ stroke, may stroke → bounds.Holds stroke.x stroke.y) : Stays bounds draw :=
  fun _ hc => ⟨h.area hc, h.intact hc hmay⟩

theorem Stays.andThen {draw more : Canvas → Canvas} (h : Stays bounds draw)
    (hmore : Stays bounds more) : Stays bounds fun canvas => more (draw canvas) := by
  intro canvas hc
  obtain ⟨harea, hintact⟩ := h canvas hc
  obtain ⟨harea', hintact'⟩ := hmore _ harea
  exact ⟨harea', hintact'.trans hintact⟩

theorem Stays.congr {draw more : Canvas → Canvas} (h : Stays bounds draw)
    (heq : ∀ canvas : Canvas, canvas.area = bounds → more canvas = draw canvas) :
    Stays bounds more := by
  intro canvas hc
  rw [heq canvas hc]
  exact h canvas hc

theorem Stays.foldl {α : Type} {items : List α} {step : Canvas → α → Canvas}
    (h : ∀ item ∈ items, Stays bounds fun canvas => step canvas item) :
    Stays bounds fun canvas => items.foldl step canvas := by
  induction items with
  | nil => exact fun _ hc => ⟨hc, Iff.rfl⟩
  | cons item items ih =>
      obtain ⟨hitem, hitems⟩ := List.forall_mem_cons.mp h
      exact hitem.andThen (ih hitems)

theorem stays_drawLine (area : Area) (line : Line) (alignment : Alignment) :
    Stays bounds fun canvas => canvas.drawLine area line alignment :=
  (draws_drawLine area line alignment).stays fun _ hs => (Area.holds_clip.mp hs.1).2

theorem stays_box (box : Box) (area : Area) : Stays bounds fun canvas => box.draw canvas area :=
  (box.draws area).stays fun _ hs => (Area.holds_clip.mp hs.1.1).2

theorem stays_paragraph (paragraph : Paragraph) (h : paragraph.wraps = false) (area : Area) :
    Stays bounds fun canvas => paragraph.draw canvas area :=
  fun canvas hc => ⟨(paragraph.area_draw canvas area).trans hc,
    paragraph.intact_draw_of_cuts h canvas area⟩

/-! ## The view and its bar -/

theorem draws_bar (area : Area) (offset lines : Nat) :
    Draws bounds (fun stroke => area.Holds stroke.x stroke.y) fun canvas =>
      canvas.drawBar area offset lines := by
  by_cases hnone : lines - area.height = 0 ∨ area.height - 2 = 0 ∨ area.width = 0
  · refine Draws.nothing.congr fun canvas _ => ?_
    simp only [drawBar, if_pos hnone]
  · have hcell : ∀ y, area.y ≤ y → y < area.y + area.height → area.Holds (area.right - 1) y := by
      intro y htop hbottom
      simp only [Area.Holds, Area.right, Area.bottom]
      omega
    have hcolumn : ∀ (y n : Nat) (symbol : String), area.y ≤ y → y + n ≤ area.y + area.height →
        Draws bounds (fun stroke => area.Holds stroke.x stroke.y) fun canvas =>
          canvas.putColumn (area.right - 1) y n symbol .plain := fun y n symbol htop hbottom =>
      draws_putColumn fun row hlow hhigh => hcell row (by omega) (by omega)
    have hend : ∀ (y : Nat) (symbol : String), area.y ≤ y → y < area.y + area.height →
        Draws bounds (fun stroke => area.Holds stroke.x stroke.y) fun canvas =>
          canvas.modify (area.right - 1) y (·.put symbol .plain) := fun y symbol htop hbottom =>
      .modify (hcell y htop hbottom)
    let thumb := Thumb.at offset (lines - area.height) area.height (area.height - 2)
    have hthumb : thumb.start + thumb.length ≤ area.height - 2 := Thumb.at_le ..
    refine ((((hend area.y "▲" ?_ ?_).andThen
      (hcolumn (area.y + 1) (area.height - 2) "║" ?_ ?_)).andThen
      (hcolumn (area.y + 1 + thumb.start) thumb.length "█" ?_ ?_)).andThen
      (hend (area.y + 1 + (area.height - 2)) "▼" ?_ ?_)).congr fun canvas _ => ?_
    case refine_9 => simp only [drawBar, if_neg hnone, thumb]
    all_goals omega

/-- Cells are only copied from where the content has them. -/
theorem get?_of_copied {content : Canvas} {first width column : Nat} {item : Nat × Nat}
    (hitem : item ∈
      (List.range' first (min area.height (content.height - first))).zip area.rows)
    (hcolumn : column ∈ List.range (min width (min area.width content.width))) :
    ∃ cell, content.get? column item.1 = some cell := by
  have hsource := (List.of_mem_zip hitem).1
  rw [List.mem_range'_1] at hsource
  rw [List.mem_range] at hcolumn
  exact get?_of_holds (holds_area.mpr ⟨by omega, by omega⟩)

/-- A cell that is copied is put into its own place. -/
theorem draws_copied {content : Canvas} {column source x y : Nat} {cell : Cell}
    (h : content.get? column source = some cell) :
    Draws bounds (fun stroke => stroke.x = x ∧ stroke.y = y) fun canvas =>
      match content.get? column source with
      | some cell => canvas.modify x y fun _ => cell
      | none => canvas.broken := by
  simp only [h]
  exact .modify ⟨rfl, rfl⟩

theorem draws_copyRows {content : Canvas} (h : content.intact = true) (first width : Nat)
    (area : Area) : Draws bounds (fun stroke => area.Holds stroke.x stroke.y) fun canvas =>
      canvas.copyRows content first width area := by
  simp only [copyRows, h, if_true]
  refine .foldl fun item hitem => .foldl fun column hcolumn => ?_
  obtain ⟨cell, hcell⟩ := get?_of_copied hitem hcolumn
  obtain ⟨htop, hbottom⟩ := Area.mem_rows.mp (List.of_mem_zip hitem).2
  rw [List.mem_range] at hcolumn
  refine (draws_copied hcell).mono ?_
  rintro stroke ⟨hx, hy⟩
  rw [hx, hy]
  exact ⟨Nat.le_add_right .., Nat.add_lt_add_left (by omega) _, htop, hbottom⟩

theorem size_content (lines : List Line) (width : Nat) :
    (content lines width).width = width ∧ (content lines width).height = lines.length % 65536 :=
  size_of_area (Paragraph.area_draw ..)

theorem intact_content (lines : List Line) (width : Nat) : (content lines width).intact = true :=
  (Paragraph.intact_draw_of_cuts { lines } rfl _ _).mpr rfl

/-- However it is scrolled, a view is drawn on the canvas. -/
theorem stays_drawScrolled (h : area.Within bounds) (lines : List Line) (scroll : Scroll) :
    Stays bounds fun canvas => (canvas.drawScrolled area lines scroll).1 := by
  have hstays : ∀ draw : Canvas → Canvas,
      Draws bounds (fun stroke => area.Holds stroke.x stroke.y) draw → Stays bounds draw :=
    fun draw hdraw => hdraw.stays fun _ hs => h.holds hs
  have hcopy := fun first width =>
    hstays _ (draws_copyRows (intact_content lines (area.width - 1)) first width area)
  simp only [drawScrolled, drawContent]
  split
  · exact (hstays _ (draws_bar ..)).andThen (hcopy _ _)
  · exact hcopy _ _

/-- Drawing a view again draws the same, and moves it no more. -/
theorem drawScrolled_again (canvas : Canvas) (area : Area) (lines : List Line) (scroll : Scroll) :
    canvas.drawScrolled area lines (canvas.drawScrolled area lines scroll).2 =
      canvas.drawScrolled area lines scroll := by
  simp only [drawScrolled, drawContent, Scroll.settle_settle]

end Canvas

end HomeConsole
