import HomeConsole.Proofs.Console.Coherence
import HomeConsole.Proofs.Session.Settle

/-!
# The page of the presentation

After everything that happens to a session its presentation belongs to the page of its console. Only
keys lead to another path, and where one does, the choice in the overview, the scrolling and the form
of the record start afresh; where the path stays, they are what the key has made of them. A path
tells the page and the record, so nothing of them is ever kept for another page or record.
-/

namespace HomeConsole

namespace Presentation

theorem follow_path (presentation : Presentation) (path : String) :
    (presentation.follow path).path = path := by
  unfold follow
  split
  · assumption
  · rfl

theorem follow_of_eq {presentation : Presentation} {path : String}
    (h : presentation.path = path) : presentation.follow path = presentation :=
  if_pos h

/-- On another path the choice, the scrolling and the form of the record are those of a new
presentation. -/
theorem follow_of_ne {presentation : Presentation} {path : String}
    (h : presentation.path ≠ path) :
    (presentation.follow path).overview = ⟨0, none, 0, 0⟩ ∧
      (presentation.follow path).detail = ⟨false, ⟨0, none⟩⟩ := by
  rw [follow, if_neg h]
  exact ⟨rfl, rfl⟩

theorem press_path (presentation : Presentation) (view : View) (key : Key) :
    (presentation.press view key).1.path = presentation.path := by
  unfold press
  split
  · rfl
  · rfl
  · split
    · unfold pressPrompt
      split <;> rfl
    · split
      · rfl
      · split
        · rfl
        · unfold pressPage
          split <;> rfl

theorem draw_path (presentation : Presentation) (console : Console) (width height turn : Nat) :
    (presentation.draw console width height turn).presentation.path = presentation.path := by
  have hview : ∀ canvas area,
      (presentation.drawView console.view canvas area).2.path = presentation.path := by
    intro canvas area
    unfold drawView
    split <;> rfl
  unfold draw
  simp only
  split <;> exact hview _ _

end Presentation

namespace Session

variable {session : Session}

/-! ## The path -/

/-- The presentation belongs to the page of the console. -/
def Attuned (session : Session) : Prop := session.presentation.path = session.console.path

theorem attuned_follow (session : Session) : Attuned session.follow :=
  session.presentation.follow_path session.console.path

/-- After a key the presentation is what the key has made of it, on the path of the console. -/
theorem Attuned.presentation_press (h : Attuned session) (key : Key) :
    (session.press key).session.presentation =
      (session.presentation.press session.console.view key).1.follow
        (session.press key).session.console.path := by
  have hkey := session.presentation.press_path session.console.view key
  unfold Session.press
  cases hp : session.presentation.press session.console.view key with
  | mk presentation action =>
      rw [hp] at hkey
      cases action with
      | none => exact (Presentation.follow_of_eq (hkey.trans h)).symm
      | some action =>
          simp only [follow]
          rw [(dispatch_eq _ action).2]

theorem Attuned.press (h : Attuned session) (key : Key) :
    Attuned (session.press key).session := by
  unfold Attuned
  rw [h.presentation_press key]
  exact Presentation.follow_path _ _

/-- Nothing but a key leads to another path. -/
theorem Tended.path_happen (ht : Tended session) (happening : Happening) :
    (∃ key, happening = .press key) ∨
      (session.happen happening).console.path = session.console.path ∧
        (session.happen happening).presentation.path = session.presentation.path := by
  cases happening with
  | press key => exact Or.inl ⟨key, rfl⟩
  | complete place source =>
      right
      obtain ⟨_, _, hs⟩ := complete_eq session source place
      simp only [Session.happen, hs, and_self]
  | take =>
      right
      simp only [Session.happen, Session.takeFirst]
      split
      · rename_i action rest hw
        obtain ⟨activation, answer, rfl⟩ := ht.answers action (hw ▸ List.mem_cons_self)
        simp [dispatch_toAction]
      · exact ⟨rfl, rfl⟩
  | drain =>
      right
      obtain ⟨_, _, hc, _⟩ := Console.takeAll_console ht.answers session.console
      simp only [Session.happen, drain_eq ht.answers, hc, and_self]
  | draw width height turn => exact Or.inr ⟨rfl, Presentation.draw_path _ _ _ _ _⟩

theorem Attuned.happen (ht : Tended session) (h : Attuned session) (happening : Happening) :
    Attuned (session.happen happening) := by
  rcases ht.path_happen happening with ⟨key, rfl⟩ | ⟨hpath, hpresentation⟩
  · exact h.press key
  · exact hpresentation.trans (h.trans hpath.symm)

theorem attuned_after (path : String) (run : List Happening) : Attuned (after path run) := by
  induction run using List.reverseRecOn with
  | nil => exact attuned_follow (new.dispatch (.navigate path)).1
  | append_singleton run happening ih =>
      rw [after_concat]
      exact ih.happen (tended_after path run) happening

/-- Where something leads to another path, the presentation starts afresh. -/
theorem Attuned.fresh_happen (ht : Tended session) (h : Attuned session) (happening : Happening)
    (hne : (session.happen happening).console.path ≠ session.console.path) :
    (session.happen happening).presentation.overview = ⟨0, none, 0, 0⟩ ∧
      (session.happen happening).presentation.detail = ⟨false, ⟨0, none⟩⟩ := by
  rcases ht.path_happen happening with ⟨key, rfl⟩ | ⟨hsame, _⟩
  · have hpath := session.presentation.press_path session.console.view key
    simp only [Session.happen] at hne ⊢
    rw [h.presentation_press key]
    refine Presentation.follow_of_ne ?_
    rw [hpath, h]
    exact hne.symm
  · exact absurd hsame hne

/-! ## What the path tells -/

theorem reached_happen (h : session.console.Reached) (happening : Happening) :
    (session.happen happening).console.Reached := by
  have htake : ∀ (session : Session) (action : Action) (rest : List Action),
      session.console.Reached → (session.dispatch action).1.console.Reached := by
    intro session action _ h
    rw [(dispatch_eq session action).1]
    exact h.update action
  cases happening with
  | press key =>
      simp only [happen, Session.press]
      split
      · exact htake _ _ [] h
      · exact h
  | complete place source =>
      obtain ⟨_, _, hs⟩ := complete_eq session source place
      rw [happen, hs]
      exact h
  | take => exact @takeFirst_induction (·.console.Reached) htake _ h
  | drain => exact @drain_induction (·.console.Reached) htake _ h
  | draw width height turn => exact h

theorem reached_after (path : String) (run : List Happening) :
    (after path run).console.Reached := by
  induction run using List.reverseRecOn with
  | nil =>
      have hnew : Session.new.console.Reached := Console.reached_new.congr rfl rfl rfl
      simp only [after, List.foldl_nil, launch, follow]
      rw [(dispatch_eq _ _).1]
      exact hnew.update _
  | append_singleton run happening ih =>
      rw [after_concat]
      exact reached_happen ih happening

/-- After everything that happens the presentation belongs to the page of the console. A key that
leads to another path starts the choice, the scrolling and the form of the record afresh, and one
that does not leaves them as the key has made them. So they start afresh whenever another page is
shown, or another record. -/
theorem presentation_belongs_to_page (path : String) (run : List Happening) :
    let session := after path run
    session.presentation.path = session.console.path ∧
      (∀ key, let next := (session.press key).session
        (next.console.path ≠ session.console.path →
          next.presentation.overview = ⟨0, none, 0, 0⟩ ∧
            next.presentation.detail = ⟨false, ⟨0, none⟩⟩) ∧
        (next.console.path = session.console.path →
          next.presentation = (session.presentation.press session.console.view key).1)) ∧
      ∀ happening, let next := session.happen happening
        next.console.view.page ≠ session.console.view.page ∨
            next.console.view.id? ≠ session.console.view.id? →
          next.presentation.overview = ⟨0, none, 0, 0⟩ ∧
            next.presentation.detail = ⟨false, ⟨0, none⟩⟩ := by
  intro session
  have ht : Tended session := tended_after path run
  have h : Attuned session := attuned_after path run
  refine ⟨h, ?_, ?_⟩
  · intro key next
    refine ⟨h.fresh_happen ht (.press key), ?_⟩
    intro hsame
    have hkey := session.presentation.press_path session.console.view key
    simp only [next, h.presentation_press key]
    exact Presentation.follow_of_eq (hkey.trans (h.trans hsame.symm))
  · intro happening next hother
    refine h.fresh_happen ht happening ?_
    intro hpath
    obtain ⟨_, hpage, hid⟩ := (reached_after path run).coherent.eq_of_path
      (reached_happen (reached_after path run) happening).coherent hpath
    rcases hother with hne | hne
    · exact hne hpage
    · exact hne hid

end Session

end HomeConsole
