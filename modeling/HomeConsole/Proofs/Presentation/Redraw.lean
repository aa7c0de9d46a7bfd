import HomeConsole.Proofs.Presentation.Choice
import HomeConsole.Proofs.Screen.Scrolled
import HomeConsole.Proofs.Screen.Wrapped

/-!
# Drawing again

Drawing takes the number of rows and the size of the screen in, and that is all it changes of a
presentation. What it takes in the second time it knows already, so the same console is drawn the
same again. Whatever the size of the screen, all that is drawn is drawn on it, but for one thing:
the wording of a failure is not cut where a row of it is too long.
-/

namespace HomeConsole

namespace Overview

variable {count first : Nat} {bounds area : Area}

/-! ## The list -/

theorem resize_settled (overview : Overview) (hcount : 0 < count) (first : Nat) :
    ({ overview.resize count with first } : Overview).resize count =
      { overview.resize count with first } := by
  have hchosen : min (min overview.chosen (count - 1)) (count - 1) =
      min overview.chosen (count - 1) := by omega
  simp only [resize_of_pos _ hcount, hchosen]

/-- Drawing a list takes the number of its rows in, and may move the first row that is seen. -/
theorem settle_eq (overview : Overview) (count : Nat) (area : Area) :
    ∃ first, overview.settle count area = { overview.resize count with first } := by
  unfold settle
  split
  · exact ⟨_, rfl⟩
  · exact ⟨_, rfl⟩

/-- A list that was drawn knows its rows. -/
theorem resize_settle (overview : Overview) (hcount : 0 < count) (area : Area) :
    (overview.settle count area).resize count = overview.settle count area := by
  obtain ⟨first, hfirst⟩ := overview.settle_eq count area
  rw [hfirst, overview.resize_settled hcount]

theorem chosen_settle (overview : Overview) (hcount : 0 < count) (area : Area) :
    ((overview.settle count area).resize count).chosen = (overview.resize count).chosen := by
  obtain ⟨first, hfirst⟩ := overview.settle_eq count area
  rw [overview.resize_settle hcount, hfirst]

/-- A list that was drawn keeps its window. -/
theorem window_settle (overview : Overview) (hcount : 0 < count) (h : area.isEmpty = false) :
    (overview.settle count area).window count area.height =
      overview.window count area.height := by
  obtain ⟨-, hheight⟩ := Area.isEmpty_eq_false.mp h
  have hknown := overview.resize_of_pos hcount
  have hsettle : overview.settle count area =
      { overview.resize count with first := (overview.window count area.height).first } := by
    simp only [settle, h, Bool.false_eq_true, if_false]
  rw [window, hsettle, overview.resize_settled hcount]
  simp only [window, hknown]
  exact Window.around_around (by omega) hheight _

theorem settle_settle (overview : Overview) (hcount : 0 < count) (area : Area) :
    (overview.settle count area).settle count area = overview.settle count area := by
  cases h : area.isEmpty with
  | true =>
      rw [settle, overview.resize_settle hcount, h]
      rfl
  | false =>
      rw [settle, overview.resize_settle hcount, h, overview.window_settle hcount h]
      simp only [settle, h, Bool.false_eq_true, if_false]

theorem drawList_again (overview : Overview) {rows : List Line} (hrows : 0 < rows.length)
    (canvas : Canvas) (area : Area) :
    (overview.settle rows.length (box.inside (area.clip canvas.area))).drawList rows canvas area =
      overview.drawList rows canvas area := by
  simp only [drawList, overview.settle_settle hrows]
  cases h : (box.inside (area.clip canvas.area)).isEmpty with
  | true => rfl
  | false => rw [overview.window_settle hrows h]

theorem draw_again (overview : Overview) (records : Load (List Record)) (canvas : Canvas)
    (area : Area) : (overview.draw records canvas area).2.draw records canvas area =
      overview.draw records canvas area := by
  cases records with
  | notLoaded => rfl
  | loading => rfl
  | failed error => rfl
  | loaded records =>
      cases records with
      | nil => rfl
      | cons record records =>
          have hcount : 0 < (record :: records).length := Nat.succ_pos _
          let rows := (record :: records).mapIdx fun i record =>
            row record (i == (overview.resize (record :: records).length).chosen) (area.width - 4)
          have hlength : rows.length = (record :: records).length := List.length_mapIdx
          have hagain : ∀ inner : Area,
              (overview.settle rows.length inner).draw (.loaded (record :: records)) canvas area =
                (overview.settle rows.length inner).drawList rows canvas area := by
            intro inner
            simp only [draw, hlength, overview.chosen_settle hcount]
            rfl
          exact (hagain _).trans (overview.drawList_again (hlength ▸ hcount) canvas area)

/-- A list is drawn on the canvas, in its box and in rows of their own. -/
theorem stays_drawList (overview : Overview) (rows : List Line) (area : Area) :
    Canvas.Stays bounds fun canvas => (overview.drawList rows canvas area).1 := by
  let inner := box.inside (area.clip bounds)
  have hbox : Canvas.Stays bounds fun canvas => box.draw canvas (area.clip bounds) :=
    Canvas.stays_box _ _
  cases hempty : inner.isEmpty with
  | true =>
      refine hbox.congr fun canvas hc => ?_
      simp only [drawList, hc, inner] at hempty ⊢
      rw [hempty, if_pos rfl]
  | false =>
      have hrows : Canvas.Stays bounds fun canvas =>
          drawRows rows (overview.window rows.length inner.height) canvas inner :=
        .foldl fun item _ =>
          Canvas.stays_drawLine { inner with y := item.2, height := 1 } item.1 .left
      refine (hbox.andThen hrows).congr fun canvas hc => ?_
      simp only [drawList, hc, inner] at hempty ⊢
      rw [hempty]
      rfl

end Overview

namespace Detail

/-! ## The record -/

theorem draw_again (detail : Detail) (id : String) (record : Load Record) (canvas : Canvas)
    (area : Area) : (detail.draw id record canvas area).2.draw id record canvas area =
      detail.draw id record canvas area := by
  cases record with
  | notLoaded => rfl
  | loading => rfl
  | failed error => rfl
  | loaded record =>
      have hscrolled := (detail.drawHeader id canvas area.cutTop.1).drawScrolled_again
        area.cutTop.2 (detail.lines record) detail.scroll
      exact congrArg (fun drawn => (drawn.1, { detail with scroll := drawn.2 })) hscrolled

theorem stays_drawHeader (detail : Detail) (id : String) (area : Area) :
    Canvas.Stays bounds fun canvas => detail.drawHeader id canvas area :=
  (Canvas.stays_drawLine area _ .left).andThen (Canvas.stays_drawLine area _ .right)

end Detail

namespace Presentation

variable {width height turn : Nat}

/-! ## The screen -/

theorem drawView_again (presentation : Presentation) (view : View) (canvas : Canvas) (area : Area) :
    (presentation.drawView view canvas area).2.drawView view canvas area =
      presentation.drawView view canvas area := by
  cases view with
  | home => rfl
  | dashboard => rfl
  | overview records =>
      exact congrArg (fun drawn => (drawn.1, { presentation with overview := drawn.2 }))
        (presentation.overview.draw_again records canvas area)
  | detail id record =>
      exact congrArg (fun drawn => (drawn.1, { presentation with detail := drawn.2 }))
        (presentation.detail.draw_again id record canvas area)

/-- A console that was drawn is drawn the same again. -/
theorem draw_again (presentation : Presentation) (console : Console) (width height turn : Nat) :
    (presentation.draw console width height turn).presentation.draw console width height turn =
      presentation.draw console width height turn := by
  have hview := presentation.drawView_again console.view
    (drawBar console width height turn (.blank width height)) (pageArea width height)
  have hprompt := presentation.prompt_drawView console.view
    (drawBar console width height turn (.blank width height)) (pageArea width height)
  simp only [draw_eq, hview, drawBottom, cursor, hprompt]

/-- What drawing a view may change: of a list the number of its rows, the choice among them and the
first row that is seen, and of a record how far it is scrolled. -/
inductive Moved (presentation : Presentation) : View → Presentation → Prop
  | stays (view : View) : Moved presentation view presentation
  | list (records : List Record) (first : Nat) (hne : records ≠ []) :
      Moved presentation (.overview (.loaded records))
        { presentation with overview := { presentation.overview.resize records.length with first } }
  | record (id : String) (record : Record) (height : Nat) :
      Moved presentation (.detail id (.loaded record))
        { presentation with
          detail := { presentation.detail with
            scroll := presentation.detail.scroll.settle
              (presentation.detail.lines record).length.toUInt16.toNat height } }

theorem moved_drawView (presentation : Presentation) (view : View) (canvas : Canvas) (area : Area) :
    presentation.Moved view (presentation.drawView view canvas area).2 := by
  cases view with
  | home => exact .stays _
  | dashboard => exact .stays _
  | overview records =>
      cases records with
      | notLoaded => exact .stays _
      | loading => exact .stays _
      | failed error => exact .stays _
      | loaded records =>
          cases records with
          | nil => exact .stays _
          | cons record records =>
              obtain ⟨first, hfirst⟩ := presentation.overview.settle_eq (record :: records).length
                (Overview.box.inside (area.clip canvas.area))
              simp only [drawView, Overview.draw, Overview.drawList, List.length_mapIdx, hfirst]
              exact .list (record :: records) first (List.cons_ne_nil _ _)
  | detail id record =>
      cases record with
      | notLoaded => exact .stays _
      | loading => exact .stays _
      | failed error => exact .stays _
      | loaded record =>
          have hheight : ∀ width,
              (Canvas.content (presentation.detail.lines record) width).height =
                (presentation.detail.lines record).length.toUInt16.toNat :=
            fun _ => (Canvas.size_content ..).2
          simp only [drawView, Detail.draw, Canvas.drawScrolled, Canvas.drawContent, hheight]
          exact .record id record area.cutTop.2.height

/-! ## Staying on the screen -/

/-- The panel in which a view words a failure. -/
def panelArea (view : View) (width height : Nat) : Area :=
  match view with
  | .detail _ _ => (pageArea width height).cutTop.2
  | _ => pageArea width height

/-- No glyph of the failure that a view words on a screen begins behind the screen. -/
def FailureFits (view : View) (width height : Nat) : Prop :=
  ∀ error, view.error? = some error →
    (Panel.failure error.message).Contained
      ((Panel.failure error.message).textArea (panelArea view width height)) width

theorem panelArea_within (view : View) (width height : Nat) :
    (panelArea view width height).Within (screen width height) := by
  have hpage := pageArea_within width height
  unfold panelArea
  split
  · obtain ⟨hleft, hright, htop, hbottom⟩ := hpage
    refine ⟨hleft, hright, ?_, ?_⟩
    all_goals
      simp only [Area.cutTop, Area.bottom] at hbottom ⊢
      omega
  · exact hpage

/-- The wording of a failure is all that may be drawn beside the screen. -/
theorem intact_failure {canvas : Canvas} (hc : canvas.area = screen width height) (view : View)
    (error : ReadError) :
    ((Panel.drawFailure error.message canvas (panelArea view width height)).area =
        screen width height) ∧
      ((Panel.drawFailure error.message canvas (panelArea view width height)).intact = true ↔
        canvas.intact = true ∧ (Panel.failure error.message).Contained
          ((Panel.failure error.message).textArea (panelArea view width height)) width) := by
  have hwidth : canvas.width = width := congrArg Area.width hc
  have hintact := (Panel.failure error.message).intact_draw canvas (panelArea view width height)
  rw [hc, (panelArea_within view width height).clip_eq, hwidth] at hintact
  exact ⟨((Panel.failure error.message).area_draw ..).trans hc, hintact⟩

/-- A view without a failure is drawn on the screen. -/
theorem stays_drawView (presentation : Presentation) {view : View} (h : view.error? = none) :
    Canvas.Stays (screen width height) fun canvas =>
      (presentation.drawView view canvas (pageArea width height)).1 := by
  have hnote : ∀ (text : String) (box : Option Box) (area : Area),
      Canvas.Stays (screen width height) fun canvas => (Panel.note text box).draw canvas area :=
    fun text box area => Canvas.stays_paragraph _ rfl area
  cases view with
  | home =>
      simp only [drawView, Panel.drawHome]
      exact Canvas.stays_paragraph { lines := Panel.homeLines, alignment := .center } rfl _
  | dashboard =>
      simp only [drawView, Panel.drawDashboard]
      exact hnote "Nothing on the dashboard yet." (some { title := " Dashboard " }) _
  | overview records =>
      simp only [drawView, Overview.draw]
      cases records with
      | notLoaded => exact hnote "Press r to load modules." (some Overview.box) _
      | loading => exact hnote "Loading modules…" (some Overview.box) _
      | failed error => cases h
      | loaded records =>
          cases records with
          | nil => exact hnote "No modules." (some Overview.box) _
          | cons record records => exact Overview.stays_drawList _ _ _
  | detail id record =>
      have hheader : Canvas.Stays (screen width height) fun canvas =>
          presentation.detail.drawHeader id canvas (pageArea width height).cutTop.1 :=
        presentation.detail.stays_drawHeader id _
      have hbody : (pageArea width height).cutTop.2.Within (screen width height) :=
        panelArea_within (.detail id .loading) width height
      simp only [drawView, Detail.draw]
      cases record with
      | notLoaded => exact hheader.andThen (hnote "Press r to load this module." none _)
      | loading => exact hheader.andThen (hnote "Loading module…" none _)
      | failed error => cases h
      | loaded record =>
          have hscrolled := Canvas.stays_drawScrolled hbody (presentation.detail.lines record)
            presentation.detail.scroll
          have hboth := hheader.andThen hscrolled
          exact hboth

theorem intact_drawView {canvas : Canvas} (hc : canvas.area = screen width height)
    (presentation : Presentation) (view : View) :
    let drawn := (presentation.drawView view canvas (pageArea width height)).1
    drawn.area = screen width height ∧
      (drawn.intact = true ↔ canvas.intact = true ∧ FailureFits view width height) := by
  cases herror : view.error? with
  | none =>
      have hfits : FailureFits view width height := by
        intro error h
        rw [herror] at h
        cases h
      obtain ⟨harea, hintact⟩ := presentation.stays_drawView herror canvas hc
      exact ⟨harea, hintact.trans (and_iff_left hfits).symm⟩
  | some error =>
      have hfits : FailureFits view width height ↔ (Panel.failure error.message).Contained
          ((Panel.failure error.message).textArea (panelArea view width height)) width := by
        simp only [FailureFits, herror, Option.some.injEq, forall_eq']
      rw [hfits]
      cases view with
      | home => cases herror
      | dashboard => cases herror
      | overview records =>
          cases records <;> cases herror
          exact intact_failure hc (.overview (.failed error)) error
      | detail id record =>
          cases record <;> cases herror
          obtain ⟨hheader, hkept⟩ :=
            presentation.detail.stays_drawHeader id (pageArea width height).cutTop.1 canvas hc
          obtain ⟨harea, hintact⟩ := intact_failure hheader (.detail id (.failed error)) error
          exact ⟨harea, hintact.trans (and_congr_left' hkept)⟩

/-- Nothing is drawn beside the screen, unless it is the wording of a failure. -/
theorem intact_draw (presentation : Presentation) (console : Console) (width height turn : Nat) :
    (presentation.draw console width height turn).canvas.intact = true ↔
      FailureFits console.view width height := by
  have hbar := (draws_drawBar console width height turn).intact
    (show (Canvas.blank width height).area = screen width height from rfl)
    fun _ hs => (barArea_within width height).holds hs.1
  obtain ⟨hview, hfits⟩ := intact_drawView (area_drawBar console width height turn) presentation
    console.view
  have hbottom := (presentation.draws_drawBottom console.view width height).intact hview
    fun _ hs => (bottomArea_within width height).holds hs.1
  rw [draw_eq]
  exact hbottom.trans (hfits.trans (and_iff_right (hbar.mpr rfl)))

/-- Each glyph of a text takes one column or two. -/
def IsPlainText (text : String) : Prop :=
  ∀ line ∈ Paragraph.textLines text, ∀ glyph ∈ line.glyphs, glyph.IsPlain

instance (text : String) : Decidable (IsPlainText text) :=
  inferInstanceAs (Decidable (∀ line ∈ _, ∀ glyph ∈ _, _))

theorem failureFits_of_plain {view : View}
    (h : ∀ error, view.error? = some error → IsPlainText error.message) (width height : Nat) :
    FailureFits view width height := by
  intro error herror
  cases hempty : ((Panel.failure error.message).textArea (panelArea view width height)).isEmpty with
  | true => exact Or.inl hempty
  | false =>
      obtain ⟨hwidth, -⟩ := Area.isEmpty_eq_false.mp hempty
      have hright := (panelArea_within view width height).2.1
      refine Paragraph.contained_of_plain _ rfl ?_ (h error herror)
      -- right of the text is the border of the panel
      simp only [Paragraph.textArea, Panel.failure, Box.inside, Area.padded, Area.inside,
        Area.right, screen] at hwidth hright ⊢
      omega

/-- Drawing is stable. Whatever the presentation, the console, the size of the screen and the turn
of the spinner: what was drawn is drawn the same again; only what is known and seen of a list or of
a record changes; and a cell beside the screen is asked for just where the wording of a failure is
too long for it, which no text is whose glyphs take one column or two. -/
theorem redraw_is_stable (presentation : Presentation) (console : Console)
    (width height turn : Nat) :
    let drawing := presentation.draw console width height turn
    drawing.presentation.draw console width height turn = drawing ∧
      presentation.Moved console.view drawing.presentation ∧
      Navigation.spinnerSign turn ∈ Navigation.spinnerSigns ∧
      (drawing.canvas.intact = true ↔ FailureFits console.view width height) ∧
      ((∀ error, console.view.error? = some error → IsPlainText error.message) →
        drawing.canvas.intact = true) := by
  intro drawing
  have hmoved : presentation.Moved console.view drawing.presentation := by
    simp only [drawing, draw_eq]
    exact presentation.moved_drawView ..
  have hspinner : Navigation.spinnerSign turn ∈ Navigation.spinnerSigns := by
    have hturn : turn % Navigation.spinnerSigns.length < Navigation.spinnerSigns.length :=
      Nat.mod_lt _ (by decide)
    rw [Navigation.spinnerSign, List.getD_eq_getElem?_getD, List.getElem?_eq_getElem hturn]
    exact List.getElem_mem hturn
  have hintact := presentation.intact_draw console width height turn
  exact ⟨presentation.draw_again console width height turn, hmoved, hspinner, hintact,
    fun h => hintact.mpr (failureFits_of_plain h width height)⟩

/-- A console whose read of the list was refused. -/
def refused : Console :=
  { Console.new with view := .overview (.failed (.network "refused")) }

/-- A short failure stays on a screen that has room for no more than a part of it. -/
theorem refused_stays_on_screen :
    (∀ error, refused.view.error? = some error → IsPlainText error.message) ∧
      (Presentation.new.draw refused 5 6 0).canvas.intact = true := by
  have hplain : ∀ error, refused.view.error? = some error → IsPlainText error.message := by
    intro error herror
    cases herror
    decide +kernel
  exact ⟨hplain, (redraw_is_stable .new refused 5 6 0).2.2.2.2 hplain⟩

/-- A backend that fails with a text of two lines, of which the second one begins with a mark, a
break and a letter, and goes on with wide signs. -/
def spoiling : Source where
  list := .error (.api 500 ("\n\u0301\u200Ba" ++ String.ofList (List.replicate 40 '世')))
  get _ := .error (.api 500 "")

/-- The row of the wide signs is longer than the screen and is not cut. -/
theorem wide_signs_leave_screen :
    let session := Session.after "/modules" [.complete 0 spoiling, .drain]
    (session.presentation.draw session.console 80 24 0).canvas.intact = false := by
  intro session
  have hview : session.console.view =
      .overview (.failed (.api 500 ("\n\u0301\u200Ba" ++ String.ofList (List.replicate 40 '世')))) :=
    rfl
  rw [Bool.eq_false_iff, Ne, intact_draw, hview]
  intro hfits
  exact absurd (hfits _ rfl) (by decide +kernel)

end Presentation

end HomeConsole
