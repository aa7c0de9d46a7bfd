import HomeConsole.Proofs.Panel.Row
import HomeConsole.Proofs.Presentation.Choice

/-!
# The highlighted row

A list is drawn row by row, each record in a row of its own, and only the row of the chosen record
is drawn in the style that reverses cells. The window is moved so that this row is seen. What is
drawn above, below and around the list neither touches its rows nor reverses a cell, so the one row
with reversed cells is the row of the record that enter opens.
-/

namespace HomeConsole

/-! ## Reversed cells -/

/-- A stroke reverses no cell that is not reversed already. -/
def Stroke.Calm (stroke : Stroke) : Prop :=
  ∀ cell, cell.style.reversed = false → (stroke.change cell).style.reversed = false

theorem Stroke.Uses.calm {styles : Style → Prop} {stroke : Stroke} (h : stroke.Uses styles)
    (hstyles : ∀ style, styles style → style.reversed = false) : stroke.Calm := by
  intro cell hcell
  rcases h cell with hplain | ⟨style, hstyle, heq⟩
  · rw [hplain]
    rfl
  · rw [heq, Style.onto, hstyles style hstyle, hcell]
    rfl

/-- No span of a line reverses cells. -/
def Line.IsCalm (line : Line) : Prop := ∀ span ∈ line, span.style.reversed = false

namespace Canvas

theorem drawLine_left {canvas : Canvas} {area : Area} {line : Line}
    (harea : area.Within canvas.area) (hne : area.isEmpty = false) (hcolumns : line.columns ≠ 0) :
    canvas.drawLine area line .left = drawSpans area canvas (line.after 0) := by
  have hsome : ¬ (area.isEmpty = true ∨ line.columns = 0) := by simp [hne, hcolumns]
  simp only [drawLine, harea.clip_eq, if_neg hsome, Area.indent_zero]
  split <;> rfl

/-- What is drawn in an area leaves the cells at its left alone. -/
theorem get?_drawSpans_of_lt {canvas : Canvas} {area : Area} {x y : Nat}
    (spans : List (Nat × Nat × Span)) (h : x < area.x) :
    (drawSpans area canvas spans).get? x y = canvas.get? x y := by
  have hdraws : Draws canvas.area (Stroke.Inks (area.clip canvas.area) fun _ => True)
      fun canvas => drawSpans area canvas spans := draws_drawSpans _ _ fun _ _ => trivial
  refine hdraws.get?_of_free rfl ?_
  rintro stroke hs ⟨rfl, -⟩
  exact Nat.not_lt_of_le (Area.holds_clip.mp hs.1).1.1 h

/-- Two blanks reverse their first cell, if their style does. -/
theorem reversed_of_gap {canvas : Canvas} {area : Area} (harea : area.Within canvas.area)
    (hne : area.isEmpty = false) {style : Style} (hstyle : style.reversed = true) :
    ∃ cell, (canvas.drawSpan area ⟨"  ", style⟩).get? area.x area.y = some cell ∧
      cell.style.reversed = true := by
  obtain ⟨hwidth, hheight⟩ := Area.isEmpty_eq_false.mp hne
  have hglyphs : Span.glyphs ⟨"  ", style⟩ = [⟨" ", style⟩, ⟨" ", style⟩] := by
    have hclusters : (clusters "  ".toList).filter (fun cluster => !cluster.any isControl) =
        [[' '], [' ']] := by decide +kernel
    simp only [Span.glyphs, hclusters]
    rfl
  have hcolumns : Glyph.columns ⟨" ", style⟩ = 1 := by
    show columns " " = 1
    exact Columns.ofList_blanks 1
  have hfirst : ¬ area.x + 1 > area.right := by
    simp only [Area.right]
    omega
  have hnext : area.x + 1 ≠ area.x := by omega
  have hput : ∃ cell, (canvas.modify area.x area.y (·.put " " style)).get? area.x area.y =
      some cell ∧ cell.style.reversed = true := by
    have hin : area.Holds area.x area.y := by
      simp only [Area.Holds, Area.right, Area.bottom]
      omega
    obtain ⟨cell, hcell⟩ := get?_of_holds (harea.holds hin)
    refine ⟨cell.put " " style, ?_, ?_⟩
    · rw [get?_modify, hcell, Stroke.on_of_eq ⟨rfl, rfl⟩]
      rfl
    · simp [Cell.put, Style.onto, hstyle]
  simp only [drawSpan, harea.clip_eq, hne, Bool.false_eq_true, if_false, hglyphs, drawGlyphs,
    hcolumns, if_neg hfirst, if_true, if_neg hnext, Nat.one_ne_zero, clearRow, Nat.sub_self,
    List.range'_zero, List.foldl_nil]
  split
  · exact hput
  · rw [get?_modify, Stroke.on_of_ne fun h => hnext h.1, Option.map_id]
    exact hput

end Canvas

/-! ## Rows -/

namespace Overview

theorem isCalm_row (record : Record) (width : Nat) : (row record false width).IsCalm := by
  have hstyle : (rowStyle false).reversed = false := rfl
  unfold Line.IsCalm row
  refine List.forall_mem_append.mpr ⟨?_, ?_⟩
  · simp only [List.forall_mem_cons, List.not_mem_nil, false_implies, implies_true, hstyle,
      and_true]
    unfold rowFlag
    split
    · rename_i active _
      cases active <;> rfl
    · rfl
  · unfold rowDescription
    split
    · simp [Style.colored, rowStyle]
    · exact fun _ h => absurd h List.not_mem_nil

/-- A row begins with a flag of one column, and two blanks in the style of the row. -/
theorem row_eq (record : Record) (isChosen : Bool) (width : Nat) : ∃ flag more,
    row record isChosen width = flag :: ⟨"  ", rowStyle isChosen⟩ :: more ∧
      Span.columns flag = 1 :=
  ⟨rowFlag record, _, rfl, columns_rowFlag record⟩

/-- The row of the chosen record reverses the cell behind the flag. -/
theorem reversed_of_row {canvas : Canvas} {area : Area} (harea : area.Within canvas.area)
    (hwidth : 2 ≤ area.width) (hheight : 0 < area.height) (record : Record) (width : Nat) :
    ∃ cell, (canvas.drawLine area (row record true width) .left).get? (area.x + 1) area.y =
      some cell ∧ cell.style.reversed = true := by
  obtain ⟨flag, more, hrow, hflag⟩ := row_eq record true width
  have hgap : Span.columns ⟨"  ", rowStyle true⟩ = 2 := columns_gap
  have hne : area.isEmpty = false := Area.isEmpty_eq_false.mpr ⟨by omega, hheight⟩
  have hbehind : (area.indent 1).isEmpty = false :=
    Area.isEmpty_eq_false.mpr ⟨by simp only [Area.indent]; omega, hheight⟩
  have hin : (area.indent 1).Within canvas.area := by
    obtain ⟨hleft, hright, hvertical⟩ := harea
    refine ⟨?_, ?_, hvertical⟩
    all_goals
      simp only [Area.indent, Area.right] at hright ⊢
      omega
  have hx : (area.indent 1).x = area.x + 1 := by
    simp only [Area.indent]
    omega
  have hmore : area.x + 1 < ((area.indent 1).indent 2).x := by
    simp only [Area.indent]
    omega
  have hcolumns : Line.columns (row record true width) ≠ 0 := by
    simp only [hrow, Line.columns, List.foldr_cons, hflag]
    omega
  have hafter : Line.after 0 (row record true width) =
      (0, 1, flag) :: (0, 2, ⟨"  ", rowStyle true⟩) :: Line.after 0 more := by
    simp [hrow, Line.after, hflag, hgap]
  have hsize : (canvas.drawSpan area flag).area = canvas.area :=
    (Canvas.draws_drawSpan area flag).area rfl
  obtain ⟨cell, hcell, hreversed⟩ := Canvas.reversed_of_gap (hsize ▸ hin) hbehind
    (show (rowStyle true).reversed = true from rfl)
  refine ⟨cell, ?_, hreversed⟩
  rw [Canvas.drawLine_left harea hne hcolumns, hafter]
  simp only [Canvas.drawSpans, Area.indent_zero, hne, hbehind, Bool.false_eq_true, if_false]
  rw [Canvas.get?_drawSpans_of_lt _ hmore, ← hx]
  exact hcell

/-! ## Lists -/

variable {bounds area : Area} {records : List Record} {rows : List Line} {window : Window}

/-- Rows are drawn from the first one of the window on, each in its own row of the area. -/
theorem mem_drawn {item : Line × Nat} :
    item ∈ ((rows.drop window.first).take window.size).zip area.rows ↔
      ∃ k, k < window.size ∧ k < area.height ∧ rows[window.first + k]? = some item.1 ∧
        item.2 = area.y + k := by
  rw [List.mem_iff_getElem?]
  constructor
  · rintro ⟨k, hk⟩
    obtain ⟨hline, hrow⟩ := List.getElem?_zip_eq_some.mp hk
    rw [List.getElem?_take] at hline
    split at hline
    · rename_i hsize
      rw [List.getElem?_drop] at hline
      have hheight : k < area.height := by
        have hlength := (List.getElem?_eq_some_iff.mp hrow).1
        rwa [Area.rows, List.length_range'] at hlength
      rw [area.getElem?_rows hheight] at hrow
      exact ⟨k, hsize, hheight, hline, (Option.some.inj hrow).symm⟩
    · cases hline
  · rintro ⟨k, hsize, hheight, hline, hrow⟩
    refine ⟨k, List.getElem?_zip_eq_some.mpr ⟨?_, ?_⟩⟩
    · rw [List.getElem?_take, if_pos hsize, List.getElem?_drop, hline]
    · rw [area.getElem?_rows hheight, hrow]

theorem draws_line_at (area : Area) (line : Line) (y : Nat) : Canvas.Draws bounds
    (fun stroke => stroke.y = y ∧ stroke.Uses fun style => ∃ span ∈ line, style = span.style)
      fun canvas => canvas.drawLine { area with y, height := 1 } line .left :=
  (Canvas.draws_drawLine _ line .left).mono fun stroke hs => by
    have hin := (Area.holds_clip.mp hs.1).1
    simp only [Area.Holds, Area.bottom] at hin
    exact ⟨by omega, hs.2⟩

/-- A row of the area shows the row of the list that belongs there. -/
theorem get?_drawRows {k : Nat} {line : Line} (hsize : k < window.size) (hheight : k < area.height)
    (hline : rows[window.first + k]? = some line) (canvas : Canvas) (x : Nat) :
    (drawRows rows window canvas area).get? x (area.y + k) =
      (canvas.drawLine { area with y := area.y + k, height := 1 } line .left).get? x
        (area.y + k) := by
  have hitem : (line, area.y + k) ∈
      ((rows.drop window.first).take window.size).zip area.rows :=
    mem_drawn.mpr ⟨k, hsize, hheight, hline, rfl⟩
  exact Canvas.Draws.get?_foldl_rows Prod.snd
    (fun item _ => (draws_line_at area item.1 item.2).mono fun _ hs => hs.1) (area.nodup_zip_rows _)
    hitem rfl x

/-- Beside the row of the chosen record, the drawing of a list reverses no cell. -/
theorem draws_drawRows (chosen width : Nat) :
    Canvas.Draws bounds (fun stroke => stroke.y = area.y + (chosen - window.first) ∨ stroke.Calm)
      fun canvas => drawRows (records.mapIdx fun i record => row record (i == chosen) width) window
        canvas area := by
  refine .foldl fun item hitem => (draws_line_at area item.1 item.2).mono fun stroke hs => ?_
  obtain ⟨k, -, -, hline, hrow⟩ := mem_drawn.mp hitem
  by_cases hchosen : window.first + k = chosen
  · left
    rw [hs.1, hrow, ← hchosen, Nat.add_sub_cancel_left]
  · right
    rw [List.getElem?_mapIdx, Option.map_eq_some_iff] at hline
    obtain ⟨record, -, hitem⟩ := hline
    have hother : (window.first + k == chosen) = false := beq_eq_false_iff_ne.mpr hchosen
    rw [hother] at hitem
    refine hs.2.calm ?_
    rintro style ⟨span, hspan, rfl⟩
    exact isCalm_row record width span (hitem ▸ hspan)

end Overview

/-! ## The screen -/

namespace Presentation

variable {presentation : Presentation} {console : Console} {records : List Record}
  {width height turn : Nat}

/-- The area of the list on a screen of a size. -/
def listArea (width height : Nat) : Area := Overview.box.inside (pageArea width height)

theorem holds_page_of_list {x y : Nat} (h : (listArea width height).Holds x y) :
    (pageArea width height).Holds x y :=
  h.of_padded.of_inside

theorem listArea_within (h : (listArea width height).isEmpty = false) :
    (listArea width height).Within (screen width height) := by
  obtain ⟨hwidth, hheight⟩ := Area.isEmpty_eq_false.mp h
  simp only [Area.Within, listArea, Overview.box, Box.inside, Area.padded, Area.inside, pageArea,
    screen, Area.cutPage, Area.right, Area.bottom] at hwidth hheight ⊢
  omega

/-- A stroke beside the list, which reverses no cell. -/
def Aside (width height : Nat) (stroke : Stroke) : Prop :=
  ¬ (listArea width height).Holds stroke.x stroke.y ∧ stroke.Calm

theorem isCalm_navigation (console : Console) (turn : Nat) :
    (navigation console turn).line.IsCalm := by
  have htab : ∀ page entry, (Navigation.tab page entry).style.reversed = false := by
    intro page entry
    unfold Navigation.tab
    split <;> rfl
  refine List.forall_mem_append.mpr ⟨List.forall_mem_append.mpr ⟨?_, ?_⟩, ?_⟩
  · simp [Navigation.tabs, htab, Navigation.separator, Navigation.loginSpan, Style.colored,
      Style.plain]
  · split
    · simp [Navigation.separator, Style.colored]
    · exact fun _ h => absurd h List.not_mem_nil
  · split
    · exact fun _ h => absurd h List.not_mem_nil
    · simp [Navigation.separator, Style.colored, Style.plain]

/-- The bar and the box are drawn beside the list. -/
theorem draws_above (console : Console) (width height turn : Nat) :
    Canvas.Draws (screen width height) (Aside width height) fun canvas =>
      Overview.box.draw (drawBar console width height turn canvas) (pageArea width height) := by
  have hbar : Canvas.Draws (screen width height) (Aside width height)
      (drawBar console width height turn) :=
    (draws_drawBar console width height turn).mono fun stroke hs =>
      ⟨fun hin => not_holds_page_of_bar hs.1 (holds_page_of_list hin),
        hs.2.calm fun _ ⟨span, hspan, hstyle⟩ => hstyle ▸ isCalm_navigation console turn span hspan⟩
  have hbox : Canvas.Draws (screen width height) (Aside width height) fun canvas =>
      Overview.box.draw canvas (pageArea width height) :=
    (Overview.box.draws _).mono fun stroke hs => by
      rw [(pageArea_within width height).clip_eq] at hs
      refine ⟨hs.2, hs.1.2.calm ?_⟩
      rintro style (rfl | rfl) <;> rfl
  exact hbar.andThen hbox

/-- The bottom line is drawn beside the list. -/
theorem draws_below (presentation : Presentation) (view : View) (width height : Nat) :
    Canvas.Draws (screen width height) (Aside width height)
      (presentation.drawBottom view width height) :=
  (presentation.draws_drawBottom view width height).mono fun stroke hs =>
    ⟨fun hin => not_holds_page_of_bottom hs.1 (holds_page_of_list hin), hs.2.calm fun style h => by
      rcases h with rfl | rfl | rfl <;> rfl⟩

/-- The row of the screen in which the chosen one of some records is seen. -/
def chosenRow (presentation : Presentation) (count width height : Nat) : Nat :=
  (listArea width height).y + ((presentation.overview.resize count).chosen -
    (presentation.overview.window count (listArea width height).height).first)

/-- The list on the screen. -/
def drawRecords (presentation : Presentation) (records : List Record) (width height : Nat)
    (canvas : Canvas) : Canvas :=
  Overview.drawRows
    (records.mapIdx fun i record => Overview.row record
      (i == (presentation.overview.resize records.length).chosen) (listArea width height).width)
    (presentation.overview.window records.length (listArea width height).height) canvas
    (listArea width height)

/-- A loaded list is drawn between what is above and what is below it. -/
theorem draw_list (presentation : Presentation) (turn : Nat)
    (hview : console.view = .overview (.loaded records)) (hne : records ≠ [])
    (hlist : (listArea width height).isEmpty = false) :
    (presentation.draw console width height turn).canvas =
      presentation.drawBottom console.view width height
        (presentation.drawRecords records width height
          (Overview.box.draw (drawBar console width height turn (.blank width height))
            (pageArea width height))) ∧
    (presentation.draw console width height turn).presentation =
      { presentation with
        overview := presentation.overview.settle records.length (listArea width height) } := by
  obtain ⟨record, more, rfl⟩ := List.exists_cons_of_ne_nil hne
  have hbar := area_drawBar console width height turn
  have hclip := (pageArea_within width height).clip_eq
  have hwidth : (pageArea width height).width - 4 = (listArea width height).width := by
    simp only [listArea, Overview.box, Box.inside, Area.padded, Area.inside]
    omega
  have hinside : Overview.box.inside (pageArea width height) = listArea width height := rfl
  simp only [draw_eq, drawView, hview, Overview.draw, Overview.drawList, hbar, hclip, hinside, hlist,
    hwidth, List.length_mapIdx, Bool.false_eq_true, if_false, drawRecords, true_and]

/-- The chosen record is in the window, and the window in the area. -/
theorem chosen_is_seen (presentation : Presentation) (hne : records ≠ [])
    (hlist : (listArea width height).isEmpty = false) :
    let known := presentation.overview.resize records.length
    let window := presentation.overview.window records.length (listArea width height).height
    (presentation.overview.settle records.length (listArea width height)) =
        { known with first := window.first } ∧
      known.chosen < records.length ∧ window.first ≤ known.chosen ∧
        known.chosen - window.first < window.size ∧
          known.chosen - window.first < (listArea width height).height := by
  intro known window
  have hcount : 0 < records.length := List.length_pos_of_ne_nil hne
  have hknown := presentation.overview.resize_of_pos hcount
  have hmarked : known.marked = some known.chosen := by
    simp only [known, hknown]
  have hwindow : window = Window.around (some known.chosen) known.first records.length
      (listArea width height).height := by
    rw [← hmarked]
    rfl
  obtain ⟨-, hheight⟩ := Area.isEmpty_eq_false.mp hlist
  have hseen : known.chosen ∈ window.rows := hwindow ▸ Window.mem_rows_around hheight
  have hsize : window.size ≤ (listArea width height).height :=
    hwindow ▸ Window.size_around_le ..
  rw [Window.rows, List.mem_range'_1] at hseen
  refine ⟨?_, ?_, hseen.1, by omega, by omega⟩
  · simp only [Overview.settle, hlist, Bool.false_eq_true, if_false]
    rfl
  · simp only [known, hknown]
    omega

/-- The record that is drawn in the row of the chosen one, and opened by enter unless a prompt takes
the key. -/
theorem opened_after_draw (presentation : Presentation) (turn : Nat)
    (hview : console.view = .overview (.loaded records)) (hne : records ≠ [])
    (hlist : (listArea width height).isEmpty = false) :
    let next := (presentation.draw console width height turn).presentation
    ∃ record, records[(presentation.overview.resize records.length).chosen]? = some record ∧
      records[next.overview.first + (presentation.chosenRow records.length width height -
        (listArea width height).y)]? = some record ∧
      (presentation.prompt = none →
        (next.press console.view .enter).2 = some (.openRecord record)) := by
  intro next
  have hdrawn : next = _ := (presentation.draw_list turn hview hne hlist).2
  obtain ⟨hsettled, hchosen, hfirst, -, -⟩ := presentation.chosen_is_seen hne hlist
  have hrecord := List.getElem?_eq_getElem hchosen
  refine ⟨_, hrecord, ?_, ?_⟩
  · rw [hdrawn, hsettled, chosenRow, Nat.add_sub_cancel_left, Nat.add_sub_cancel' hfirst, hrecord]
  · intro hprompt
    have hcount : 0 < records.length := List.length_pos_of_ne_nil hne
    have hagain : (next.overview.resize records.length).chosen =
        (presentation.overview.resize records.length).chosen := by
      rw [hdrawn, hsettled, Overview.resize_of_pos _ hcount]
      exact Nat.min_eq_left (Nat.le_sub_one_of_lt hchosen)
    have hnone : ¬ (next.overview.resize records.length).count = 0 := by
      rw [Overview.count_resize]
      exact Nat.ne_of_gt hcount
    have hclosed : next.prompt = none := hdrawn ▸ hprompt
    simp only [hview, press, hclosed, globalAction?, pressPage, Overview.press, if_neg hnone, hagain,
      Option.bind_some, hrecord, Option.map_some]
    rfl

/-- In its row, the chosen record is drawn as it would be on an empty screen. -/
theorem get?_chosenRow {record : Record} (hview : console.view = .overview (.loaded records))
    (harea : (listArea width height).isEmpty = false)
    (hrecord : records[(presentation.overview.resize records.length).chosen]? = some record) {x : Nat}
    (hleft : (listArea width height).x ≤ x) (hright : x < (listArea width height).right) :
    let y := presentation.chosenRow records.length width height
    (presentation.draw console width height turn).canvas.get? x y =
      ((Canvas.blank width height).drawLine { listArea width height with y, height := 1 }
        (Overview.row record true (listArea width height).width) .left).get? x y := by
  intro y
  have hne : records ≠ [] := by
    rintro rfl
    cases hrecord
  obtain ⟨-, -, hfirst, hsize, hseen⟩ := presentation.chosen_is_seen hne harea
  have hin : (listArea width height).Holds x y :=
    ⟨hleft, hright, Nat.le_add_right .., Nat.add_lt_add_left hseen _⟩
  have hbeside : ∀ stroke : Stroke, Aside width height stroke → ¬ (stroke.x = x ∧ stroke.y = y) := by
    rintro stroke hs ⟨rfl, hy⟩
    exact hs.1 (hy ▸ hin)
  have habove := (draws_above console width height turn).area
    (show (Canvas.blank width height).area = screen width height from rfl)
  have hlist : Canvas.Draws (screen width height) _
      (presentation.drawRecords records width height) := Overview.draws_drawRows ..
  have hrow : (records.mapIdx fun i record => Overview.row record
      (i == (presentation.overview.resize records.length).chosen) (listArea width height).width)[
        (presentation.overview.window records.length (listArea width height).height).first +
          ((presentation.overview.resize records.length).chosen -
            (presentation.overview.window records.length (listArea width height).height).first)]? =
      some (Overview.row record true (listArea width height).width) := by
    rw [Nat.add_sub_cancel' hfirst, List.getElem?_mapIdx, hrecord, Option.map_some, beq_self_eq_true]
  rw [(presentation.draw_list turn hview hne harea).1,
    (presentation.draws_below _ _ _).get?_of_free (hlist.area habove) hbeside, drawRecords]
  refine (Overview.get?_drawRows hsize hseen hrow _ x).trans ?_
  exact (Overview.draws_line_at _ _ y).get?_congr habove rfl
    ((draws_above console width height turn).get?_of_free rfl hbeside)

/-- No row of the screen but the one of the chosen record has reversed cells. -/
theorem row_of_reversed (hview : console.view = .overview (.loaded records)) (hne : records ≠ [])
    (hlist : (listArea width height).isEmpty = false) {x row : Nat} {cell : Cell}
    (hcell : (presentation.draw console width height turn).canvas.get? x row = some cell)
    (hreversed : cell.style.reversed = true) :
    row = presentation.chosenRow records.length width height := by
  by_contra hother
  have hall : Canvas.Draws (screen width height) (fun stroke =>
      stroke.y = presentation.chosenRow records.length width height ∨ stroke.Calm) fun canvas =>
        presentation.drawBottom console.view width height
          (presentation.drawRecords records width height (Overview.box.draw
            (drawBar console width height turn canvas) (pageArea width height))) :=
    (((draws_above console width height turn).mono fun _ hs => Or.inr hs.2).andThen
      (Overview.draws_drawRows _ _)).andThen
        ((presentation.draws_below _ width height).mono fun _ hs => Or.inr hs.2)
  have hblank : ∀ cell, (Canvas.blank width height).get? x row = some cell →
      cell.style.reversed = false := by
    intro cell hcell
    rw [Canvas.eq_of_get?_blank hcell]
    rfl
  have hcalm : ∀ cell, (presentation.draw console width height turn).canvas.get? x row =
      some cell → cell.style.reversed = false := by
    rw [(presentation.draw_list turn hview hne hlist).1]
    refine hall.keeps rfl ?_ hblank
    rintro stroke (hrow | hcalm) _ hy
    · exact absurd (hy.symm.trans hrow) hother
    · exact hcalm
  rw [hcalm cell hcell] at hreversed
  cases hreversed

/-- The row of the chosen record has a reversed cell. -/
theorem reversed_in_row (hview : console.view = .overview (.loaded records)) (hne : records ≠ [])
    (hwidth : 2 ≤ (listArea width height).width) (hheight : 1 ≤ (listArea width height).height) :
    ∃ x cell, (presentation.draw console width height turn).canvas.get? x
      (presentation.chosenRow records.length width height) = some cell ∧
        cell.style.reversed = true := by
  have hlist : (listArea width height).isEmpty = false :=
    Area.isEmpty_eq_false.mpr ⟨by omega, hheight⟩
  obtain ⟨record, hrecord, -, -⟩ := presentation.opened_after_draw turn hview hne hlist
  obtain ⟨-, -, -, -, hseen⟩ := presentation.chosen_is_seen hne hlist
  have hline : ({ listArea width height with
      y := presentation.chosenRow records.length width height, height := 1 } : Area).Within
        (Canvas.blank width height).area := by
    have hy : presentation.chosenRow records.length width height <
      (listArea width height).bottom := Nat.add_lt_add_left hseen _
    obtain ⟨hx, hright, htop, hbottom⟩ := listArea_within hlist
    exact ⟨hx, hright, Nat.zero_le _, Nat.le_trans hy hbottom⟩
  obtain ⟨cell, hcell, hreversed⟩ := Overview.reversed_of_row hline hwidth Nat.one_pos record
    (listArea width height).width
  refine ⟨(listArea width height).x + 1, cell, ?_, hreversed⟩
  rw [get?_chosenRow hview hlist hrecord (Nat.le_succ _) (Nat.add_lt_add_left hwidth _)]
  exact hcell

/-- The chosen record's row, and no other row of the screen, has reversed cells. -/
theorem reversed_iff (hview : console.view = .overview (.loaded records)) (hne : records ≠ [])
    (hwidth : 2 ≤ (listArea width height).width) (hheight : 1 ≤ (listArea width height).height)
    (row : Nat) :
    (∃ x cell, (presentation.draw console width height turn).canvas.get? x row = some cell ∧
      cell.style.reversed = true) ↔ row = presentation.chosenRow records.length width height := by
  have hlist : (listArea width height).isEmpty = false :=
    Area.isEmpty_eq_false.mpr ⟨by omega, hheight⟩
  constructor
  · rintro ⟨x, cell, hcell, hreversed⟩
    exact row_of_reversed hview hne hlist hcell hreversed
  · rintro rfl
    exact reversed_in_row hview hne hwidth hheight

/-- What is highlighted is what enter opens. Whatever has happened, the notes of the overview agree
and a key opens only rows that are there. When a list is drawn in an area of two columns and a row at
least, just one row of the screen has reversed cells; it is the row of one of the records, drawn as
the chosen one, and enter opens this record next, unless a prompt is open. -/
theorem highlighted_row_is_opened (doings : List Doing) :
    let presentation := after doings
    (presentation.overview.Settled ∧
      (∀ key row, (presentation.overview.press key).2 = some row →
        row < presentation.overview.count) ∧
      ∀ (records : List Record) key row,
        ((presentation.overview.resize records.length).press key).2 = some row →
          ∃ record, records[row]? = some record) ∧
    ∀ (console : Console) (records : List Record) (width height turn : Nat),
      console.view = .overview (.loaded records) → records ≠ [] →
      2 ≤ (listArea width height).width → 1 ≤ (listArea width height).height →
      let area := listArea width height
      let drawing := presentation.draw console width height turn
      ∃ y record, area.y ≤ y ∧ y < area.bottom ∧
        records[drawing.presentation.overview.first + (y - area.y)]? = some record ∧
        (∀ row, (∃ x cell, drawing.canvas.get? x row = some cell ∧ cell.style.reversed = true) ↔
          row = y) ∧
        (∀ x, area.x ≤ x → x < area.right → drawing.canvas.get? x y =
          ((Canvas.blank width height).drawLine { area with y, height := 1 }
            (Overview.row record true area.width) .left).get? x y) ∧
        (presentation.prompt = none →
          (drawing.presentation.press console.view .enter).2 = some (.openRecord record)) := by
  intro presentation
  refine ⟨⟨settled_after doings, fun key row hopen => ((settled_after doings).opened hopen).2.2,
    fun records key row hopen => Overview.record_of_opened hopen⟩, ?_⟩
  intro console records width height turn hview hne hwidth hheight area drawing
  have hlist : (listArea width height).isEmpty = false :=
    Area.isEmpty_eq_false.mpr ⟨by omega, hheight⟩
  obtain ⟨record, hrecord, hshown, hopened⟩ :=
    presentation.opened_after_draw turn hview hne hlist
  obtain ⟨-, -, -, -, hseen⟩ := presentation.chosen_is_seen hne hlist
  exact ⟨presentation.chosenRow records.length width height, record, Nat.le_add_right ..,
    Nat.add_lt_add_left hseen _, hshown, reversed_iff hview hne hwidth hheight,
    fun x hleft hright => get?_chosenRow hview hlist hrecord hleft hright, hopened⟩

/-- A console that shows two records. -/
def paired : Console :=
  { Console.new with view := .overview (.loaded [⟨.bool false⟩, ⟨.bool true⟩]) }

/-- One key below the first record, the second one is highlighted and opened. -/
theorem second_row_is_highlighted :
    let drawing := (after [.press paired.view .down]).draw paired 30 8 0
    (2 ≤ (listArea 30 8).width ∧ 1 ≤ (listArea 30 8).height) ∧
      (drawing.presentation.press paired.view .enter).2 = some (.openRecord ⟨.bool true⟩) ∧
        ∃ y, ∀ row, (∃ x cell, drawing.canvas.get? x row = some cell ∧
          cell.style.reversed = true) ↔ row = y := by
  intro drawing
  have hwidth : 2 ≤ (listArea 30 8).width := by decide
  have hheight : 1 ≤ (listArea 30 8).height := by decide
  obtain ⟨y, record, -, -, -, hreversed, -, -⟩ :=
    (highlighted_row_is_opened [.press paired.view .down]).2 paired _ 30 8 0 rfl
      (List.cons_ne_nil _ _) hwidth hheight
  obtain ⟨record, hchosen, -, hopened⟩ := @opened_after_draw paired _ 30 8
    (after [.press paired.view .down]) 0 rfl (List.cons_ne_nil _ _) rfl
  obtain rfl : ⟨.bool true⟩ = record := Option.some.inj hchosen
  exact ⟨⟨hwidth, hheight⟩, hopened rfl, y, hreversed⟩

/-- While a prompt is open, enter hands its text over and opens no record. -/
theorem prompt_takes_enter :
    let drawing := (after [.press paired.view (.char ':')]).draw paired 30 8 0
    (2 ≤ (listArea 30 8).width ∧ 1 ≤ (listArea 30 8).height) ∧
      (drawing.presentation.press paired.view .enter).2 = some (.navigate "") ∧
        ¬ ∃ record, (drawing.presentation.press paired.view .enter).2 =
          some (.openRecord record) := by
  intro drawing
  have hpressed : (drawing.presentation.press paired.view .enter).2 = some (.navigate "") := rfl
  refine ⟨⟨by decide, by decide⟩, hpressed, ?_⟩
  rintro ⟨record, hopen⟩
  rw [hpressed] at hopen
  cases hopen

end Presentation

end HomeConsole
