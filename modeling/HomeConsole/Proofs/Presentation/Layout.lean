import HomeConsole.Presentation.Draw
import HomeConsole.Proofs.Screen.Drawn

/-!
# The parts of the screen

The bar, the page and the bottom line share the screen without touching each other. So the screen is
the drawing of the page, on a canvas that has the bar already, with the bottom line drawn at last.
-/

namespace HomeConsole

namespace Presentation

variable {width height x y : Nat}

/-! ## Areas -/

/-- The whole screen. -/
def screen (width height : Nat) : Area := ⟨0, 0, width, height⟩

/-- The place of the navigation bar. -/
def barArea (width height : Nat) : Area := (screen width height).cutPage.1

/-- The place of the page. -/
def pageArea (width height : Nat) : Area := (screen width height).cutPage.2.1

/-- The place of the help or of the prompt. -/
def bottomArea (width height : Nat) : Area := (screen width height).cutPage.2.2

theorem barArea_within (width height : Nat) :
    (barArea width height).Within (screen width height) := by
  simp only [Area.Within, barArea, screen, Area.cutPage, Area.right, Area.bottom]
  omega

theorem pageArea_within (width height : Nat) :
    (pageArea width height).Within (screen width height) := by
  simp only [Area.Within, pageArea, screen, Area.cutPage, Area.right, Area.bottom]
  omega

theorem bottomArea_within (width height : Nat) :
    (bottomArea width height).Within (screen width height) := by
  simp only [Area.Within, bottomArea, screen, Area.cutPage, Area.right, Area.bottom]
  omega

theorem not_holds_page_of_bar (h : (barArea width height).Holds x y) :
    ¬ (pageArea width height).Holds x y := by
  simp only [Area.Holds, barArea, pageArea, screen, Area.cutPage, Area.right, Area.bottom] at h ⊢
  omega

theorem not_holds_page_of_bottom (h : (bottomArea width height).Holds x y) :
    ¬ (pageArea width height).Holds x y := by
  simp only [Area.Holds, bottomArea, pageArea, screen, Area.cutPage, Area.right, Area.bottom] at h ⊢
  omega

/-! ## Drawing -/

/-- Draws the navigation bar. -/
def drawBar (console : Console) (width height turn : Nat) (canvas : Canvas) : Canvas :=
  canvas.drawLine (barArea width height) (navigation console turn).line .left

/-- Draws the help or the prompt. -/
def drawBottom (presentation : Presentation) (view : View) (width height : Nat) (canvas : Canvas) :
    Canvas :=
  match presentation.prompt with
  | some prompt => prompt.draw canvas (bottomArea width height)
  | none => canvas.drawSpan (bottomArea width height) ⟨help view, .colored .darkGray⟩

/-- Where the cursor is while a prompt is open. -/
def cursor (presentation : Presentation) (width height : Nat) : Option (Nat × Nat) :=
  presentation.prompt.map fun prompt =>
    ((prompt.cursor (bottomArea width height)).toNat, (bottomArea width height).y)

theorem prompt_drawView (presentation : Presentation) (view : View) (canvas : Canvas)
    (area : Area) : (presentation.drawView view canvas area).2.prompt = presentation.prompt := by
  unfold drawView
  split <;> rfl

/-- The screen is drawn from its top to its bottom. -/
theorem draw_eq (presentation : Presentation) (console : Console) (width height turn : Nat) :
    presentation.draw console width height turn =
      let drawn := presentation.drawView console.view
        (drawBar console width height turn (.blank width height)) (pageArea width height)
      ⟨presentation.drawBottom console.view width height drawn.1, drawn.2,
        presentation.cursor width height⟩ := by
  have hprompt := presentation.prompt_drawView console.view
    (drawBar console width height turn (.blank width height)) (pageArea width height)
  simp only [drawBar, pageArea, barArea, screen] at hprompt
  simp only [draw, drawBottom, cursor, drawBar, pageArea, barArea, bottomArea, screen,
    Canvas.area_blank, hprompt]
  cases presentation.prompt <;> rfl

theorem draws_drawBar (console : Console) (width height turn : Nat) :
    Canvas.Draws (screen width height)
      (Stroke.Inks (barArea width height) fun style =>
        ∃ span ∈ (navigation console turn).line, style = span.style)
      (drawBar console width height turn) := by
  refine (Canvas.draws_drawLine (barArea width height) _ .left).mono fun stroke hs => ?_
  rwa [(barArea_within width height).clip_eq] at hs

/-- The styles of the bottom line. -/
def BottomStyle (style : Style) : Prop :=
  style = .colored .darkGray ∨ style = .colored .yellow ∨ style = .plain

theorem draws_drawBottom (presentation : Presentation) (view : View) (width height : Nat) :
    Canvas.Draws (screen width height) (Stroke.Inks (bottomArea width height) BottomStyle)
      (presentation.drawBottom view width height) := by
  have hclip := (bottomArea_within width height).clip_eq
  unfold drawBottom
  cases presentation.prompt with
  | none =>
      refine (Canvas.draws_drawSpan _ _).mono fun stroke hs => ?_
      rw [hclip] at hs
      exact hs.mono (fun _ _ h => h) fun _ h => Or.inl h
  | some prompt =>
      refine (Canvas.draws_drawLine _ _ _).mono fun stroke hs => ?_
      rw [hclip] at hs
      refine hs.mono (fun _ _ h => h) ?_
      rintro style ⟨span, hspan, rfl⟩
      simp only [Prompt.line, List.mem_cons, List.not_mem_nil, or_false] at hspan
      rcases hspan with rfl | rfl
      · exact Or.inr (Or.inl rfl)
      · exact Or.inr (Or.inr rfl)

theorem area_drawBar (console : Console) (width height turn : Nat) :
    (drawBar console width height turn (.blank width height)).area = screen width height :=
  (draws_drawBar console width height turn).area rfl

end Presentation

end HomeConsole
