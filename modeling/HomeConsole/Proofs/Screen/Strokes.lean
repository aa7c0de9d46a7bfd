import HomeConsole.Screen.Canvas
import Mathlib.Data.List.Nodup

/-!
# Strokes

Whatever is drawn is drawn cell by cell, and what is drawn never depends on the cells that are there
already. So a way of drawing amounts to a fixed run of strokes, each of which changes one cell. What
its strokes may do tells which cells stay as they were, what the others are like, and whether the
canvas stays intact.
-/

namespace HomeConsole

namespace Area

/-- Whether a cell lies in an area. -/
def Holds (area : Area) (x y : Nat) : Prop :=
  area.x ≤ x ∧ x < area.right ∧ area.y ≤ y ∧ y < area.bottom

end Area

/-- A change of one cell. -/
structure Stroke where
  x : Nat
  y : Nat
  change : Cell → Cell

/-- What a stroke makes of the cell at a place: it leaves all but its own alone. -/
def Stroke.on (stroke : Stroke) (x y : Nat) (cell : Cell) : Cell :=
  if stroke.x = x ∧ stroke.y = y then stroke.change cell else cell

theorem Stroke.on_of_eq {stroke : Stroke} {x y : Nat} (h : stroke.x = x ∧ stroke.y = y) :
    stroke.on x y = stroke.change :=
  funext fun _ => if_pos h

theorem Stroke.on_of_ne {stroke : Stroke} {x y : Nat} (h : ¬ (stroke.x = x ∧ stroke.y = y)) :
    stroke.on x y = id :=
  funext fun _ => if_neg h

namespace Canvas

variable {canvas : Canvas} {bounds : Area} {x y : Nat} {f : Cell → Cell} {strokes : List Stroke}

/-! ## One cell -/

@[simp] theorem area_blank (width height : Nat) :
    (blank width height).area = ⟨0, 0, width, height⟩ := rfl

theorem size_of_area {canvas' : Canvas} (h : canvas.area = canvas'.area) :
    canvas.width = canvas'.width ∧ canvas.height = canvas'.height :=
  ⟨congrArg Area.width h, congrArg Area.height h⟩

@[simp] theorem right_area (canvas : Canvas) : canvas.area.right = canvas.width := Nat.zero_add _

@[simp] theorem bottom_area (canvas : Canvas) : canvas.area.bottom = canvas.height := Nat.zero_add _

theorem holds_area : canvas.area.Holds x y ↔ x < canvas.width ∧ y < canvas.height := by
  simp [Area.Holds, area, Area.right, Area.bottom]

@[simp] theorem area_modify (canvas : Canvas) (x y : Nat) (f : Cell → Cell) :
    (canvas.modify x y f).area = canvas.area := by
  unfold modify
  split <;> rfl

theorem intact_modify (canvas : Canvas) (x y : Nat) (f : Cell → Cell) :
    (canvas.modify x y f).intact = true ↔ canvas.intact = true ∧ canvas.area.Holds x y := by
  rw [holds_area]
  unfold modify
  split
  · rename_i h
    exact (and_iff_left h).symm
  · rename_i h
    exact ⟨fun hbroken => (by cases hbroken), fun hboth => absurd hboth.2 h⟩

theorem get?_of_not_holds (h : ¬ canvas.area.Holds x y) : canvas.get? x y = none :=
  if_neg (mt holds_area.mpr h)

theorem get?_of_holds (h : canvas.area.Holds x y) : ∃ cell, canvas.get? x y = some cell := by
  have hin := holds_area.mp h
  have hindex : y * canvas.width + x < canvas.cells.size := by
    rw [canvas.size_cells]
    calc y * canvas.width + x < y * canvas.width + canvas.width := by omega
      _ = (y + 1) * canvas.width := by rw [Nat.succ_mul]
      _ ≤ canvas.height * canvas.width := Nat.mul_le_mul_right _ hin.2
      _ = canvas.width * canvas.height := Nat.mul_comm ..
  exact ⟨canvas.cells[y * canvas.width + x], by rw [get?, if_pos hin, Array.getElem?_eq_getElem]⟩

theorem eq_of_get?_blank {width height : Nat} {cell : Cell}
    (h : (blank width height).get? x y = some cell) : cell = .blank := by
  unfold get? at h
  split at h
  · obtain ⟨hindex, rfl⟩ := Array.getElem?_eq_some_iff.mp h
    simp [blank]
  · cases h

/-- Cells of a row-by-row grid are told apart by their places. -/
theorem index_inj {width x' : Nat} (hx : x < width) (hx' : x' < width) (y y' : Nat) :
    y * width + x = y' * width + x' ↔ x = x' ∧ y = y' := by
  constructor
  · intro h
    have hmod := congrArg (· % width) h
    have hdiv := congrArg (· / width) h
    simp only [Nat.mul_add_mod_self_right, Nat.mod_eq_of_lt hx, Nat.mod_eq_of_lt hx'] at hmod
    have hpos : 0 < width := Nat.zero_lt_of_lt hx
    simp only [Nat.mul_comm _ width, Nat.mul_add_div hpos, Nat.div_eq_of_lt hx,
      Nat.div_eq_of_lt hx', Nat.add_zero] at hdiv
    exact ⟨hmod, hdiv⟩
  · rintro ⟨rfl, rfl⟩
    rfl

theorem get?_modify (canvas : Canvas) (x y : Nat) (f : Cell → Cell) (x' y' : Nat) :
    (canvas.modify x y f).get? x' y' = (canvas.get? x' y').map ((⟨x, y, f⟩ : Stroke).on x' y') := by
  by_cases hin : x < canvas.width ∧ y < canvas.height
  · by_cases hin' : x' < canvas.width ∧ y' < canvas.height
    · have hindex := index_inj hin.1 hin'.1 y y'
      simp only [modify, if_pos hin, get?, if_pos hin', Array.getElem?_modify, hindex]
      by_cases h : x = x' ∧ y = y'
      · simp only [if_pos h, @Stroke.on_of_eq ⟨x, y, f⟩ _ _ h]
      · simp only [if_neg h, @Stroke.on_of_ne ⟨x, y, f⟩ _ _ h, Option.map_id, id]
    · simp only [modify, if_pos hin, get?, if_neg hin', Option.map_none]
  · have hbroken : (canvas.modify x y f).get? x' y' = canvas.get? x' y' := by
      rw [modify, if_neg hin]
      rfl
    rw [hbroken]
    by_cases h : x = x' ∧ y = y'
    · obtain ⟨rfl, rfl⟩ := h
      rw [get?_of_not_holds (mt holds_area.mp hin), Option.map_none]
    · rw [Stroke.on_of_ne h, Option.map_id, id]

/-! ## Many cells -/

/-- Makes strokes one after the other. -/
def paint (canvas : Canvas) (strokes : List Stroke) : Canvas :=
  strokes.foldl (fun canvas stroke => canvas.modify stroke.x stroke.y stroke.change) canvas

theorem paint_append (canvas : Canvas) (strokes more : List Stroke) :
    canvas.paint (strokes ++ more) = (canvas.paint strokes).paint more :=
  List.foldl_append

theorem area_paint (canvas : Canvas) (strokes : List Stroke) :
    (canvas.paint strokes).area = canvas.area := by
  induction strokes generalizing canvas with
  | nil => rfl
  | cons stroke strokes ih => exact (ih _).trans (area_modify ..)

theorem intact_paint (h : ∀ stroke ∈ strokes, canvas.area.Holds stroke.x stroke.y) :
    (canvas.paint strokes).intact = true ↔ canvas.intact = true := by
  induction strokes generalizing canvas with
  | nil => rfl
  | cons stroke strokes ih =>
      obtain ⟨hin, hmore⟩ := List.forall_mem_cons.mp h
      have hstep := intact_modify canvas stroke.x stroke.y stroke.change
      rw [and_iff_left hin] at hstep
      exact (ih (by simpa using hmore)).trans hstep

theorem get?_paint (canvas : Canvas) (strokes : List Stroke) (x y : Nat) :
    (canvas.paint strokes).get? x y = (canvas.get? x y).map fun cell =>
      strokes.foldl (fun cell stroke => stroke.on x y cell) cell := by
  induction strokes generalizing canvas with
  | nil => exact Option.map_id'.symm
  | cons stroke strokes ih =>
      show ((canvas.modify ..).paint strokes).get? x y = _
      rw [ih, get?_modify, Option.map_map]
      rfl

/-! ## Ways of drawing -/

/-- On canvases of some bounds, a way of drawing makes a fixed run of strokes, all of one kind. -/
def Draws (bounds : Area) (may : Stroke → Prop) (draw : Canvas → Canvas) : Prop :=
  ∃ strokes, (∀ stroke ∈ strokes, may stroke) ∧
    ∀ canvas : Canvas, canvas.area = bounds → draw canvas = canvas.paint strokes

namespace Draws

variable {may : Stroke → Prop} {draw more : Canvas → Canvas}

theorem nothing : Draws bounds may fun canvas => canvas :=
  ⟨[], fun _ h => absurd h List.not_mem_nil, fun _ _ => rfl⟩

theorem modify (h : may ⟨x, y, f⟩) : Draws bounds may fun canvas => canvas.modify x y f :=
  ⟨[⟨x, y, f⟩], List.forall_mem_singleton.mpr h, fun _ _ => rfl⟩

theorem mono {may' : Stroke → Prop} (h : Draws bounds may draw)
    (hmay : ∀ stroke, may stroke → may' stroke) : Draws bounds may' draw := by
  obtain ⟨strokes, hstrokes, hdraw⟩ := h
  exact ⟨strokes, fun stroke hs => hmay stroke (hstrokes stroke hs), hdraw⟩

theorem congr (h : Draws bounds may draw)
    (heq : ∀ canvas : Canvas, canvas.area = bounds → more canvas = draw canvas) :
    Draws bounds may more := by
  obtain ⟨strokes, hstrokes, hdraw⟩ := h
  exact ⟨strokes, hstrokes, fun canvas hc => (heq canvas hc).trans (hdraw canvas hc)⟩

theorem andThen (h : Draws bounds may draw) (hmore : Draws bounds may more) :
    Draws bounds may fun canvas => more (draw canvas) := by
  obtain ⟨strokes, hstrokes, hdraw⟩ := h
  obtain ⟨strokes', hstrokes', hmore⟩ := hmore
  refine ⟨strokes ++ strokes', List.forall_mem_append.mpr ⟨hstrokes, hstrokes'⟩, ?_⟩
  intro canvas hc
  show more (draw canvas) = _
  rw [hdraw canvas hc, hmore _ ((area_paint ..).trans hc), paint_append]

theorem foldl {α : Type} {items : List α} {step : Canvas → α → Canvas}
    (h : ∀ item ∈ items, Draws bounds may fun canvas => step canvas item) :
    Draws bounds may fun canvas => items.foldl step canvas := by
  induction items with
  | nil => exact nothing
  | cons item items ih =>
      obtain ⟨hitem, hitems⟩ := List.forall_mem_cons.mp h
      exact hitem.andThen (ih hitems)

theorem area (h : Draws bounds may draw) (hc : canvas.area = bounds) :
    (draw canvas).area = bounds := by
  obtain ⟨strokes, _, hdraw⟩ := h
  rw [hdraw canvas hc, area_paint, hc]

/-- What is drawn within the canvas leaves it intact. -/
theorem intact (h : Draws bounds may draw) (hc : canvas.area = bounds)
    (hmay : ∀ stroke, may stroke → bounds.Holds stroke.x stroke.y) :
    (draw canvas).intact = true ↔ canvas.intact = true := by
  obtain ⟨strokes, hstrokes, hdraw⟩ := h
  rw [hdraw canvas hc]
  exact intact_paint fun stroke hs => hc ▸ hmay stroke (hstrokes stroke hs)

/-- A cell on which no stroke does anything stays as it was. -/
theorem get?_of_idle (h : Draws bounds may draw) (hc : canvas.area = bounds)
    (hidle : ∀ stroke, may stroke → ∀ cell, stroke.on x y cell = cell) :
    (draw canvas).get? x y = canvas.get? x y := by
  obtain ⟨strokes, hstrokes, hdraw⟩ := h
  have hsame : ∀ cell, strokes.foldl (fun cell stroke => stroke.on x y cell) cell = cell := by
    intro cell
    clear hdraw
    induction strokes with
    | nil => rfl
    | cons stroke strokes ih =>
        obtain ⟨hstroke, hmore⟩ := List.forall_mem_cons.mp hstrokes
        rw [List.foldl_cons, hidle stroke hstroke, ih hmore]
  simp only [hdraw canvas hc, get?_paint, hsame, Option.map_id']

/-- A cell that no stroke may touch stays as it was. -/
theorem get?_of_free (h : Draws bounds may draw) (hc : canvas.area = bounds)
    (hfree : ∀ stroke, may stroke → ¬ (stroke.x = x ∧ stroke.y = y)) :
    (draw canvas).get? x y = canvas.get? x y :=
  h.get?_of_idle hc fun stroke hs cell => congrFun (Stroke.on_of_ne (hfree stroke hs)) cell

/-- What is drawn at a place depends on the cell there and on no other. -/
theorem get?_congr {canvas' : Canvas} (h : Draws bounds may draw) (hc : canvas.area = bounds)
    (hc' : canvas'.area = bounds) (heq : canvas.get? x y = canvas'.get? x y) :
    (draw canvas).get? x y = (draw canvas').get? x y := by
  obtain ⟨strokes, _, hdraw⟩ := h
  rw [hdraw canvas hc, hdraw canvas' hc', get?_paint, get?_paint, heq]

/-- What all strokes at a place preserve holds of the cell there afterwards. -/
theorem keeps {P : Cell → Prop} (h : Draws bounds may draw) (hc : canvas.area = bounds)
    (hmay : ∀ stroke, may stroke → stroke.x = x → stroke.y = y →
      ∀ cell, P cell → P (stroke.change cell))
    (hP : ∀ cell, canvas.get? x y = some cell → P cell) :
    ∀ cell, (draw canvas).get? x y = some cell → P cell := by
  obtain ⟨strokes, hstrokes, hdraw⟩ := h
  have hfold : ∀ cell, P cell → P (strokes.foldl (fun cell stroke => stroke.on x y cell) cell) := by
    clear hdraw
    induction strokes with
    | nil => exact fun _ hcell => hcell
    | cons stroke strokes ih =>
        obtain ⟨hstroke, hmore⟩ := List.forall_mem_cons.mp hstrokes
        intro cell hcell
        rw [List.foldl_cons]
        refine ih hmore _ ?_
        by_cases hat : stroke.x = x ∧ stroke.y = y
        · rw [Stroke.on_of_eq hat]
          exact hmay stroke hstroke hat.1 hat.2 cell hcell
        · rw [Stroke.on_of_ne hat]
          exact hcell
  intro cell hcell
  rw [hdraw canvas hc, get?_paint, Option.map_eq_some_iff] at hcell
  obtain ⟨before, hbefore, rfl⟩ := hcell
  exact hfold before (hP before hbefore)

/-- Of what is drawn one after the other, a place shows the only item that may touch it. -/
theorem get?_foldl {α : Type} {items : List α} {step : Canvas → α → Canvas}
    {may : α → Stroke → Prop}
    (hstep : ∀ item ∈ items, Draws bounds (may item) fun canvas => step canvas item)
    (hnodup : items.Nodup) {item : α} (hitem : item ∈ items)
    (hapart : ∀ other ∈ items, other ≠ item →
      ∀ stroke, may other stroke → ¬ (stroke.x = x ∧ stroke.y = y))
    (hc : canvas.area = bounds) :
    (items.foldl step canvas).get? x y = (step canvas item).get? x y := by
  obtain ⟨before, after, rfl⟩ := List.append_of_mem hitem
  have hdraws : Draws bounds (may item) fun canvas => step canvas item := hstep item hitem
  have hothers : ∀ others : List α, (∀ other ∈ others, other ∈ before ++ item :: after) →
      item ∉ others → Draws bounds (fun stroke => ¬ (stroke.x = x ∧ stroke.y = y)) fun canvas =>
        others.foldl step canvas := fun others hmem hnot =>
    .foldl fun other hother => (hstep other (hmem other hother)).mono
      (hapart other (hmem other hother) (ne_of_mem_of_not_mem hother hnot))
  rw [List.nodup_middle, List.nodup_cons, List.mem_append, not_or] at hnodup
  have hbefore := hothers before (fun _ h => List.mem_append_left _ h) hnodup.1.1
  have hafter := hothers after (fun _ h => List.mem_append_right _ (List.mem_cons_of_mem _ h))
    hnodup.1.2
  have hstart := hbefore.area hc
  rw [List.foldl_append, List.foldl_cons, hafter.get?_of_free (hdraws.area hstart) fun _ hs => hs]
  exact hdraws.get?_congr hstart hc (hbefore.get?_of_free hc fun _ hs => hs)

/-- Of rows that are drawn one after the other, each in a row of cells of its own, a row of cells
shows its own. -/
theorem get?_foldl_rows {α : Type} (row : α → Nat) {items : List α} {step : Canvas → α → Canvas}
    (hstep : ∀ item ∈ items, Draws bounds (·.y = row item) fun canvas => step canvas item)
    (hrows : (items.map row).Nodup) {item : α} (hitem : item ∈ items) (hc : canvas.area = bounds)
    (x : Nat) :
    (items.foldl step canvas).get? x (row item) = (step canvas item).get? x (row item) := by
  refine get?_foldl hstep (List.Nodup.of_map row hrows) hitem ?_ hc
  rintro other hother hne stroke hs ⟨-, hy⟩
  exact hne (List.inj_on_of_nodup_map hrows hother hitem (hs.symm.trans hy))

end Draws

end Canvas

end HomeConsole
