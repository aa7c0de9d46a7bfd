import HomeConsole.Proofs.Presentation.Layout
import HomeConsole.Proofs.Session.Reads

/-!
# The chosen row

The overview notes the chosen row, the marked row and the number of rows each on its own, and takes
a new number of rows in at every key and at every drawing of a list, but not while a list is
missing, empty or failed. Whatever happens in which order, the notes agree, and a key opens only
rows that are there.
-/

namespace HomeConsole

namespace Overview

variable {overview : Overview} {key : Key} {row count : Nat}

/-- The notes agree: without rows nothing is chosen and none is marked, and otherwise the chosen row
is one of them, and is the marked one. -/
def Settled (overview : Overview) : Prop :=
  (overview.count = 0 ∧ overview.chosen = 0 ∧ overview.marked = none) ∨
    (overview.chosen < overview.count ∧ overview.marked = some overview.chosen)

/-! ## Steps -/

theorem resize_of_pos (overview : Overview) (h : 0 < count) :
    overview.resize count =
      { overview with
        chosen := min overview.chosen (count - 1)
        marked := some (min overview.chosen (count - 1))
        count } := by
  rw [resize, if_neg (Nat.ne_of_gt h)]

theorem count_resize (overview : Overview) (count : Nat) :
    (overview.resize count).count = count := by
  unfold resize
  split
  · rename_i h
    exact h.symm
  · rfl

/-- Whatever was noted before, the notes agree once the number of rows is taken in. -/
theorem settled_resize (overview : Overview) (count : Nat) : (overview.resize count).Settled := by
  rcases Nat.eq_zero_or_pos count with rfl | hpos
  · exact Or.inl ⟨rfl, rfl, rfl⟩
  · rw [overview.resize_of_pos hpos]
    exact Or.inr ⟨show min _ _ < count by omega, rfl⟩

theorem settled_choose (h : row < overview.count) : (overview.choose row).Settled :=
  Or.inr ⟨h, rfl⟩

theorem Settled.press (h : overview.Settled) (key : Key) : (overview.press key).1.Settled := by
  rcases h with ⟨hnone, hrest⟩ | ⟨hchosen, hmarked⟩
  · simp only [Overview.press, if_pos hnone]
    exact Or.inl ⟨hnone, hrest⟩
  · have hpos : 0 < overview.count := Nat.zero_lt_of_lt hchosen
    simp only [Overview.press, if_neg (Nat.ne_of_gt hpos)]
    split
    · exact settled_choose (by omega)
    · exact settled_choose (by omega)
    · exact Or.inr ⟨hchosen, hmarked⟩
    · exact Or.inr ⟨hchosen, hmarked⟩

theorem Settled.settle (overview : Overview) (count : Nat) (area : Area) :
    (overview.settle count area).Settled := by
  have h := overview.settled_resize count
  unfold Overview.settle
  split
  · exact h
  · exact h

theorem Settled.draw (h : overview.Settled) (records : Load (List Record)) (canvas : Canvas)
    (area : Area) : (overview.draw records canvas area).2.Settled := by
  unfold Overview.draw
  split
  · exact h
  · exact h
  · exact h
  · exact h
  · exact .settle ..

/-- The row that a key opens is the chosen one, and there is such a row. -/
theorem Settled.opened (h : overview.Settled) (hopen : (overview.press key).2 = some row) :
    key = .enter ∧ row = overview.chosen ∧ row < overview.count := by
  unfold Overview.press at hopen
  split at hopen
  · cases hopen
  · rename_i hcount
    split at hopen <;> cases hopen
    rcases h with ⟨hnone, -⟩ | ⟨hchosen, -⟩
    · exact absurd hnone hcount
    · exact ⟨rfl, rfl, hchosen⟩

/-- A row that is opened among records is the row of one of them. -/
theorem record_of_opened {records : List Record}
    (hopen : ((overview.resize records.length).press key).2 = some row) :
    ∃ record, records[row]? = some record := by
  obtain ⟨-, -, hrow⟩ := (overview.settled_resize records.length).opened hopen
  rw [count_resize] at hrow
  exact ⟨records[row], List.getElem?_eq_getElem hrow⟩

end Overview

namespace Presentation

variable {presentation : Presentation}

/-! ## Runs -/

/-- Something that happens to a presentation: a key is pressed on a page that may show anything, a
path is followed, or a console is drawn. -/
inductive Doing where
  | press (view : View) (key : Key)
  | follow (path : String)
  | draw (console : Console) (width height turn : Nat)

/-- The presentation after something happened to it. -/
def undergo (presentation : Presentation) : Doing → Presentation
  | .press view key => (presentation.press view key).1
  | .follow path => presentation.follow path
  | .draw console width height turn => (presentation.draw console width height turn).presentation

/-- A new presentation after all that happened to it since. -/
def after (doings : List Doing) : Presentation := doings.foldl undergo new

theorem after_concat (doings : List Doing) (doing : Doing) :
    after (doings ++ [doing]) = (after doings).undergo doing := by
  simp [after]

/-- A presentation that came about in some way. -/
def Reached (presentation : Presentation) : Prop := ∃ doings, after doings = presentation

theorem Reached.undergo (h : presentation.Reached) (doing : Doing) :
    (presentation.undergo doing).Reached := by
  obtain ⟨doings, rfl⟩ := h
  exact ⟨doings ++ [doing], after_concat doings doing⟩

theorem overview_press (presentation : Presentation) (view : View) (key : Key) :
    (presentation.press view key).1.overview = presentation.overview ∨
      ∃ count, (presentation.press view key).1.overview =
        ((presentation.overview.resize count).press key).1 := by
  have hpage : (presentation.pressPage view key).1.overview = presentation.overview ∨
      ∃ count, (presentation.pressPage view key).1.overview =
        ((presentation.overview.resize count).press key).1 := by
    unfold pressPage
    split
    · rename_i records
      exact Or.inr ⟨records.length, rfl⟩
    · exact Or.inl rfl
    · exact Or.inl rfl
  unfold press
  split
  · exact Or.inl rfl
  · exact Or.inl rfl
  · split
    · left
      unfold pressPrompt
      split <;> rfl
    · split
      · exact Or.inl rfl
      · split
        · exact Or.inl rfl
        · exact hpage

theorem overview_drawView (presentation : Presentation) (view : View) (canvas : Canvas)
    (area : Area) : (presentation.drawView view canvas area).2.overview = presentation.overview ∨
      ∃ records, (presentation.drawView view canvas area).2.overview =
        (presentation.overview.draw records canvas area).2 := by
  unfold drawView
  split
  · exact Or.inl rfl
  · exact Or.inl rfl
  · rename_i records
    exact Or.inr ⟨records, rfl⟩
  · exact Or.inl rfl

theorem settled_undergo (h : presentation.overview.Settled) (doing : Doing) :
    (presentation.undergo doing).overview.Settled := by
  cases doing with
  | press view key =>
      rcases presentation.overview_press view key with heq | ⟨count, heq⟩
      · rw [undergo, heq]
        exact h
      · rw [undergo, heq]
        exact (Overview.settled_resize _ count).press key
  | follow path =>
      rw [undergo, follow]
      split
      · exact h
      · exact Or.inl ⟨rfl, rfl, rfl⟩
  | draw console width height turn =>
      rw [undergo, draw_eq]
      rcases presentation.overview_drawView console.view
        (drawBar console width height turn (.blank width height)) (pageArea width height) with
        heq | ⟨records, heq⟩
      · rw [heq]
        exact h
      · rw [heq]
        exact h.draw records _ _

theorem settled_after (doings : List Doing) : (after doings).overview.Settled := by
  induction doings using List.reverseRecOn with
  | nil => exact Or.inl ⟨rfl, rfl, rfl⟩
  | append_singleton doings doing ih =>
      rw [after_concat]
      exact settled_undergo ih doing

end Presentation

namespace Session

/-! ## Sessions -/

theorem reached_press {session : Session} (h : session.presentation.Reached) (key : Key) :
    (session.press key).session.presentation.Reached := by
  have hkey := h.undergo (.press session.console.view key)
  simp only [Presentation.undergo] at hkey
  unfold Session.press
  cases hp : session.presentation.press session.console.view key with
  | mk presentation action =>
      rw [hp] at hkey
      cases action with
      | none => exact hkey
      | some action =>
          simp only [follow, (dispatch_eq _ action).2]
          exact hkey.undergo (.follow _)

/-- Whatever happens to a session, its presentation comes about in one of these ways. -/
theorem presentation_reached (path : String) (run : List Happening) :
    (after path run).presentation.Reached := by
  have htake : ∀ (session : Session) (action : Action) (rest : List Action),
      session.presentation.Reached → (session.dispatch action).1.presentation.Reached := by
    intro session action _ h
    rw [(dispatch_eq session action).2]
    exact h
  induction run using List.reverseRecOn with
  | nil =>
      have hnew : Presentation.new.Reached := ⟨[], rfl⟩
      simp only [after, List.foldl_nil, launch, follow, (dispatch_eq _ _).2]
      exact hnew.undergo (.follow _)
  | append_singleton run happening ih =>
      rw [after_concat]
      cases happening with
      | press key => exact reached_press ih key
      | complete place source =>
          obtain ⟨_, _, hs⟩ := complete_eq (after path run) source place
          rw [happen, hs]
          exact ih
      | take => exact @takeFirst_induction (·.presentation.Reached) htake _ ih
      | drain => exact @drain_induction (·.presentation.Reached) htake _ ih
      | draw width height turn =>
          exact ih.undergo (.draw (after path run).console width height turn)

end Session

end HomeConsole
