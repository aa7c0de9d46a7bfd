import HomeConsole.Proofs.Panel.RawView
import HomeConsole.Proofs.Screen.Content

/-!
# Scrolling through a record

The key to go down moves a record by one line, until its last line is at the bottom, so each line
that is on the content comes to be seen. The content has all lines of a record, unless there are more
than a word of 16 bits counts; then it has only as many as the word says, and no key leads to the
others.
-/

namespace HomeConsole.Detail

variable {detail : Detail} {id : String} {record : Record} {canvas : Canvas} {bounds area : Area}

theorem draws_drawHeader (detail : Detail) (id : String) (area : Area) :
    Canvas.Draws bounds (fun stroke => area.Holds stroke.x stroke.y) fun canvas =>
      detail.drawHeader id canvas area := by
  have hline : ∀ line alignment, Canvas.Draws bounds
      (fun stroke => area.Holds stroke.x stroke.y) fun canvas =>
        canvas.drawLine area line alignment := fun line alignment =>
    (Canvas.draws_drawLine area line alignment).mono fun _ hs => (Area.holds_clip.mp hs.1).1
  exact (hline _ .left).andThen (hline _ .right)

/-- The content of the view on a record. -/
def content (detail : Detail) (record : Record) (body : Area) : Canvas :=
  Canvas.content (detail.lines record) (body.width - 1)

/-- The content is all that drawing takes from a record. -/
theorem draw_loaded (detail : Detail) (id : String) (record : Record) (canvas : Canvas)
    (area : Area) : detail.draw id (.loaded record) canvas area =
      let drawn := (detail.drawHeader id canvas area.cutTop.1).drawContent area.cutTop.2
        (detail.content record area.cutTop.2) detail.scroll
      (drawn.1, { detail with scroll := drawn.2 }) := by
  rw [draw]
  rfl

theorem snd_draw_loaded (detail : Detail) (id : String) (record : Record) (canvas : Canvas)
    (area : Area) : (detail.draw id (.loaded record) canvas area).2 =
      { detail with
        scroll := detail.scroll.settle (detail.content record area.cutTop.2).height
          area.cutTop.2.height } := by
  rw [draw_loaded]
  rfl

/-- A record drawn, and drawn again each time the key to go down was pressed. -/
def drawnDown (detail : Detail) (id : String) (record : Record) (canvas : Canvas) (area : Area) :
    Nat → Canvas × Detail
  | 0 => detail.draw id (.loaded record) canvas area
  | n + 1 =>
    ((detail.drawnDown id record canvas area n).2.press .down).1.draw id (.loaded record) canvas area

/-- Each key moves a record down by one line, until its last line is at the bottom. -/
theorem drawnDown_eq (htop : detail.scroll.offset = 0) (id : String) (record : Record)
    (canvas : Canvas) (area : Area) (n : Nat) : ∃ scroll,
      detail.drawnDown id record canvas area n =
        { detail with scroll }.draw id (.loaded record) canvas area ∧
      (scroll.settle (detail.content record area.cutTop.2).height
        area.cutTop.2.height).offset.toNat =
          min n ((detail.content record area.cutTop.2).height - area.cutTop.2.height) := by
  have hword : (detail.content record area.cutTop.2).height < 65536 := by
    rw [content, (Canvas.size_content ..).2]
    exact Nat.mod_lt _ (by decide)
  induction n with
  | zero =>
      refine ⟨detail.scroll, rfl, ?_⟩
      rw [Scroll.offset_settle, htop]
      exact rfl
  | succ n ih =>
      -- the key moves the view by a line, and drawing moves it back if that was too far
      obtain ⟨scroll, hdrawn, hoffset⟩ := ih
      refine ⟨(scroll.settle (detail.content record area.cutTop.2).height
        area.cutTop.2.height).down, ?_, ?_⟩
      · rw [drawnDown, hdrawn, snd_draw_loaded]
        rfl
      · rw [Scroll.offset_settle, Scroll.offset_down, hoffset]
        omega

/-- After some keys to go down, the rows of the view show the lines from the one on that was moved to
the top. -/
theorem shows_drawnDown (htop : detail.scroll.offset = 0) (id : String) (record : Record)
    (canvas : Canvas) (area : Area) (hbody : area.cutTop.2.Within canvas.area) {n k i : Nat}
    {line : Line} (hk : k < area.cutTop.2.height)
    (hi : min n ((detail.content record area.cutTop.2).height - area.cutTop.2.height) + k = i)
    (hrow : i < (detail.content record area.cutTop.2).height)
    (hline : (detail.lines record)[i]? = some line) :
    (detail.drawnDown id record canvas area n).1.Shows area.cutTop.2 k line := by
  obtain ⟨scroll, hdrawn, hoffset⟩ := drawnDown_eq htop id record canvas area n
  have hheader := (draws_drawHeader detail id area.cutTop.1).area (rfl : canvas.area = canvas.area)
  subst hi
  rw [hdrawn, draw_loaded]
  exact Canvas.shows_drawContent (hheader ▸ hbody) hk hoffset hrow hline

/-- The content of a record has as many of its lines as a word of 16 bits counts, and drawing takes
nothing else from the record. From the top, the key to go down leads to each line that is on the
content. So all lines of a record can be reached if there are less than 65536, and the lines that
are not counted are never drawn. -/
theorem counted_lines_are_reached (detail : Detail) (htop : detail.scroll.offset = 0) (id : String)
    (record : Record) (canvas : Canvas) (area : Area) (harea : area.Within canvas.area)
    (hheight : 2 ≤ area.height) :
    let body := area.cutTop.2
    let lines := detail.lines record
    let content := detail.content record body
    content.height = lines.length % 65536 ∧
    (content.height = lines.length ↔ lines.length < 65536) ∧
    (∀ i line, i < content.height → lines[i]? = some line → ∃ n k, k < body.height ∧
      (detail.drawnDown id record canvas area n).1.Shows body k line) ∧
    content = Canvas.content (lines.take content.height) (body.width - 1) ∧
    ∀ scroll, ({ detail with scroll }.draw id (.loaded record) canvas area).1 =
      ((detail.drawHeader id canvas area.cutTop.1).drawContent body content scroll).1 := by
  intro body lines content
  have hcount : content.height = lines.length % 65536 := (Canvas.size_content ..).2
  have hbody : body.Within canvas.area ∧ 0 < body.height := by
    obtain ⟨hleft, hright, htop, hbottom⟩ := harea
    refine ⟨⟨hleft, hright, ?_, ?_⟩, ?_⟩
    all_goals
      simp only [body, Area.cutTop, Area.bottom] at htop hbottom ⊢
      omega
  refine ⟨hcount, ?_, ?_, (Canvas.content_take ..).symm, ?_⟩
  · rw [hcount]
    omega
  · intro i line hi hline
    obtain ⟨k, hk, hsum⟩ : ∃ k, k < body.height ∧
        min i (content.height - body.height) + k = i :=
      ⟨i - min i (content.height - body.height), by omega, by omega⟩
    exact ⟨i, k, hk, shows_drawnDown htop id record canvas area hbody.1 hk hsum hi hline⟩
  · intro scroll
    rw [draw_loaded]
    rfl

/-- The last line of a short list is drawn below the others. -/
theorem last_bracket_is_reached :
    let detail : Detail := { raw := true }
    let record : Record := ⟨.array [.null, .null]⟩
    let area : Area := ⟨0, 0, 10, 3⟩
    (detail.scroll.offset = 0 ∧ area.Within (Canvas.blank 10 3).area ∧ 2 ≤ area.height) ∧
      ∃ n k, k < 2 ∧ (detail.drawnDown "x" record (.blank 10 3) area n).1.Shows ⟨0, 1, 10, 2⟩ k
        [⟨"]", .plain⟩] := by
  intro detail record area
  have hwithin : area.Within (Canvas.blank 10 3).area := by
    simp [area, Area.Within, Area.right, Area.bottom]
  have hlength : (detail.lines record).length = 4 := length_rawLines record
  have hline : (detail.lines record)[3]? = some [⟨"]", .plain⟩] := by decide +kernel
  obtain ⟨hcount, -, hreach, -⟩ :=
    counted_lines_are_reached detail rfl "x" record (.blank 10 3) area hwithin (by decide)
  rw [hlength] at hcount
  exact ⟨⟨rfl, hwithin, by decide⟩, hreach 3 _ (by rw [hcount]; decide) hline⟩

/-- A list of just as many lines as a word does not count. -/
def longList : Record := ⟨.array (List.replicate 65534 (.number (.integer 0)))⟩

theorem length_rawLines_longList : (rawLines longList).length = 65536 := by
  have hvalue : longList.value = .array (.number (.integer 0) ::
      List.replicate 65533 (.number (.integer 0))) := congrArg Json.array List.replicate_succ
  have hitems : Json.breaksOfItems (List.replicate 65534 (.number (.integer 0))) = 65534 :=
    Json.breaksOfItems_replicate 65534 _
  rw [List.replicate_succ] at hitems
  have hbreaks : longList.value.breaks = 65534 + 1 := by
    rw [hvalue, Json.breaks, hitems]
  rw [length_rawLines, hbreaks]

/-- Without a content, a record leaves the canvas below its header as it was. -/
theorem get?_drawnDown_of_none (htop : detail.scroll.offset = 0) (id : String) (record : Record)
    (canvas : Canvas) (area : Area) (hnone : (detail.content record area.cutTop.2).height = 0)
    (n x : Nat) {y : Nat} (hy : area.cutTop.1.bottom ≤ y) :
    (detail.drawnDown id record canvas area n).1.get? x y = canvas.get? x y := by
  obtain ⟨scroll, hdrawn, -⟩ := drawnDown_eq htop id record canvas area n
  have hcopied : ∀ canvas : Canvas, (canvas.drawContent area.cutTop.2
      (detail.content record area.cutTop.2) scroll).1 = canvas := by
    intro canvas
    have hintact : (detail.content record area.cutTop.2).intact = true := Canvas.intact_content ..
    simp [Canvas.drawContent, Canvas.copyRows, hnone, hintact]
  have hheader : (detail.drawHeader id canvas area.cutTop.1).get? x y = canvas.get? x y := by
    refine (draws_drawHeader detail id area.cutTop.1).get?_of_free rfl ?_
    rintro stroke hs ⟨-, rfl⟩
    exact Nat.not_lt_of_le hy hs.2.2.2
  rw [hdrawn, draw_loaded]
  exact (congrArg (Canvas.get? · x y) (hcopied _)).trans hheader

/-- A list that is too long is not drawn at all: it has lines, but no key to go down leads to the
first of them. -/
theorem long_list_is_not_drawn :
    let detail : Detail := { raw := true }
    (detail.lines longList).length = 65536 ∧
    (detail.content longList ⟨0, 1, 80, 23⟩).height = 0 ∧
    [⟨"[", .plain⟩] ∈ detail.lines longList ∧
    ∀ n k, k < 23 → ¬ (detail.drawnDown "x" longList (.blank 80 24) ⟨0, 0, 80, 24⟩ n).1.Shows
      ⟨0, 1, 80, 23⟩ k [⟨"[", .plain⟩] := by
  intro detail
  have hlength : (detail.lines longList).length = 65536 := length_rawLines_longList
  have hnone : (detail.content longList ⟨0, 1, 80, 23⟩).height = 0 := by
    rw [content, (Canvas.size_content ..).2, hlength]
  refine ⟨hlength, hnone, bracket_mem_rawLines _ _, ?_⟩
  intro n k hk hshows
  have hempty : (detail.drawnDown "x" longList (.blank 80 24) ⟨0, 0, 80, 24⟩ n).1.get? 0 (1 + k) =
      (Canvas.blank 80 24).get? 0 (1 + k) :=
    get?_drawnDown_of_none rfl "x" longList (.blank 80 24) ⟨0, 0, 80, 24⟩ hnone n 0
      (Nat.le_add_right 1 k)
  have hbracket : cellAt (cutGlyphs 79 (Line.glyphs [⟨"[", .plain⟩])) 0 ≠ .blank := by
    decide +kernel
  have hcell := hshows 0 (by decide)
  rw [hempty, Canvas.get?_blank (by decide) (by omega)] at hcell
  exact hbracket (Option.some.inj hcell).symm

end HomeConsole.Detail
