import HomeConsole.Proofs.Session.Run
import Mathlib.Data.List.Induction

/-!
# The reads of a session

Only the read that is held can be under way, and it is the read of the view in the current
activation. So at most one read is under way, and a view that loads will hear of its read: either
the read is still under way, or its answer waits.
-/

namespace HomeConsole.Session

/-- The read at a place is under way. -/
def Running (session : Session) (place : Nat) : Prop :=
  ∃ request, session.reads[place]? = some ⟨request, .running⟩

theorem running_of_getElem? {session : Session} {place : Nat} {read : Read}
    (h : session.reads[place]? = some read) (hs : read.state = .running) :
    session.Running place :=
  ⟨read.request, by rw [h, ← hs]⟩

theorem exists_running_of_mem {session : Session} {read : Read} (hm : read ∈ session.reads)
    (hs : read.state = .running) :
    ∃ place, session.reads[place]? = some read ∧ session.Running place := by
  obtain ⟨place, hp⟩ := Array.getElem?_of_mem hm
  exact ⟨place, hp, running_of_getElem? hp hs⟩

theorem running_eq_nil {session : Session} (h : ∀ place, ¬ session.Running place) :
    session.running = [] := by
  simp only [running, List.filter_eq_nil_iff, decide_eq_true_eq]
  intro read hm hs
  obtain ⟨place, _, hr⟩ := exists_running_of_mem (Array.mem_toList_iff.mp hm) hs
  exact h place hr

/-- What holds at all times. -/
structure Tended (session : Session) : Prop where
  answers : ∀ action ∈ session.waiting, ∃ activation answer,
    action = Answer.toAction activation answer
  started : session.console.view.isUnread = false
  held : ∀ place, session.Running place → session.held = some place
  current : ∀ place, session.held = some place → ∃ read, session.reads[place]? = some read ∧
    read.request.activation = session.console.activation ∧
    session.console.view.endpoint? = some read.request.endpoint
  awaited : session.console.view.isLoading = true → (∃ place, session.Running place) ∨
    ∃ answer endpoint, answer.toAction session.console.activation ∈ session.waiting ∧
      session.console.view.endpoint? = some endpoint ∧ View.fits answer endpoint = true

theorem Tended.new : Tended new where
  answers := by simp [Session.new]
  started := rfl
  held := by simp [Running, Session.new]
  current := by simp [Session.new]
  awaited := by simp [Session.new, Console.new, View.isLoading]

theorem Tended.read_of_running {session : Session} (h : Tended session) {place : Nat}
    {read : Read} (hread : session.reads[place]? = some read) (hr : session.Running place) :
    session.held = some place ∧ read.state = .running ∧
      read.request.activation = session.console.activation ∧
      session.console.view.endpoint? = some read.request.endpoint := by
  have hheld := h.held place hr
  obtain ⟨held, hh, hactivation, hendpoint⟩ := h.current place hheld
  obtain rfl : read = held := by simpa [hread] using hh
  obtain ⟨request, hrun⟩ := hr
  obtain rfl : read = ⟨request, .running⟩ := by simpa [hread] using hrun
  exact ⟨hheld, rfl, hactivation, hendpoint⟩

theorem Tended.running_length_le {session : Session} (h : Tended session) :
    session.running.length ≤ 1 := by
  have hpair : session.reads.toList.Pairwise
      fun first second => first.state = .running → second.state ≠ .running := by
    rw [List.pairwise_iff_getElem]
    intro i j hi hj hij hfirst hsecond
    have hri := h.held i (running_of_getElem? (by simp) hfirst)
    have hrj := h.held j (running_of_getElem? (by simp) hsecond)
    rw [hri] at hrj
    exact absurd (Option.some.inj hrj) (Nat.ne_of_lt hij)
  have hall := hpair.filter (·.state = .running)
  have hrunning : ∀ read ∈ session.running, read.state = .running := by simp [running]
  change session.running.Pairwise _ at hall
  cases hs : session.running with
  | nil => simp
  | cons first rest =>
      rw [hs] at hall hrunning
      cases rest with
      | nil => simp
      | cons second rest =>
          have hne := List.rel_of_pairwise_cons hall List.mem_cons_self
          exact absurd (hrunning second (by simp)) (hne (hrunning first (by simp)))

/-! ## Another activation -/

theorem running_of_release {session : Session} {place : Nat} (h : session.release.Running place) :
    session.Running place ∧ session.held ≠ some place := by
  obtain ⟨request, hr⟩ := h
  unfold release at hr
  split at hr
  · rename_i held hh
    rw [Array.getElem?_modify] at hr
    split at hr
    · obtain ⟨read, _, ha⟩ := Option.map_eq_some_iff.mp hr
      unfold Read.abort at ha
      split at ha
      · cases ha
      · rename_i hne
        subst ha
        exact absurd rfl hne
    · rename_i hne
      refine ⟨⟨request, hr⟩, ?_⟩
      simpa [hh] using hne
  · rename_i hh
    exact ⟨⟨request, hr⟩, by simp [hh]⟩

/-- When the activation changes, nothing stays under way but the read that starts. -/
theorem Tended.running_advance {session : Session} (h : Tended session) {arrived : Console}
    {place : Nat} :
    (session.advance arrived).Running place ↔
      arrived.view.endpoint?.isSome = true ∧ place = session.reads.size := by
  have hreleased : ∀ console place,
      ¬ ({ session with console } : Session).release.Running place := by
    intro console place hr
    obtain ⟨hrun, hheld⟩ := running_of_release hr
    exact hheld (h.held place hrun)
  have hsize : ∀ console,
      ({ session with console } : Session).release.reads.size = session.reads.size := by
    intro console
    unfold release
    split <;> simp
  unfold advance
  cases arrived.view.endpoint? with
  | none =>
      simp only [Option.isSome_none, Bool.false_eq_true, false_and, iff_false]
      exact hreleased _ place
  | some endpoint =>
      simp only [Option.isSome_some, true_and]
      unfold Running start
      simp only [Array.getElem?_push, hsize]
      constructor
      · rintro ⟨request, hr⟩
        split at hr
        · assumption
        · exact absurd ⟨request, hr⟩ (hreleased _ place)
      · rintro rfl
        exact ⟨_, if_pos rfl⟩

theorem advance_console (session : Session) (arrived : Console) :
    (session.advance arrived).console = arrived.begin.console := by
  unfold advance
  cases arrived.view.endpoint? <;> simp only [start, release] <;> split <;> rfl

theorem advance_waiting (session : Session) (arrived : Console) :
    (session.advance arrived).waiting = session.waiting := by
  unfold advance
  cases arrived.view.endpoint? <;> simp only [start, release] <;> split <;> rfl

/-- The read that is held after the activation changed is the one that starts. -/
theorem held_advance {session : Session} {arrived : Console} {place : Nat}
    (h : (session.advance arrived).held = some place) : ∃ endpoint,
      arrived.view.endpoint? = some endpoint ∧
        (session.advance arrived).reads[place]? =
          some ⟨⟨arrived.activation + 1, endpoint⟩, .running⟩ := by
  unfold advance at h ⊢
  cases he : arrived.view.endpoint? with
  | none =>
      simp only [he, release] at h
      split at h
      · cases h
      · rename_i hh
        simp [hh] at h
  | some endpoint =>
      simp only [he, start, Option.some.injEq] at h
      subst h
      exact ⟨endpoint, rfl, by simp [start]⟩

theorem Tended.advance {session : Session} (h : Tended session) (arrived : Console) :
    Tended (session.advance arrived) where
  answers := by
    rw [advance_waiting]
    exact h.answers
  started := by simp [advance_console]
  held place hr := by
    obtain ⟨hsome, rfl⟩ := h.running_advance.mp hr
    obtain ⟨endpoint, he⟩ := Option.isSome_iff_exists.mp hsome
    simp only [Session.advance, he, start, release]
    split <;> simp
  current place hp := by
    obtain ⟨endpoint, he, hread⟩ := held_advance hp
    exact ⟨_, hread, by simp [advance_console], by simp [advance_console, he]⟩
  awaited hl := by
    refine Or.inl ⟨session.reads.size, h.running_advance.mpr ⟨?_, rfl⟩⟩
    simpa [advance_console] using hl

/-! ## The end of a read -/

/-- A read that ends was under way, and its answer waits from then on. -/
theorem complete_cases (session : Session) (source : Source) (place : Nat) :
    (¬ session.Running place ∧ session.complete source place = session) ∨
      ∃ request, session.reads[place]? = some ⟨request, .running⟩ ∧
        session.complete source place =
          { session with
            reads := session.reads.modify place fun read => { read with state := .finished }
            waiting := session.waiting ++ [request.perform source] } := by
  unfold complete finish
  cases hread : session.reads[place]? with
  | none => exact Or.inl ⟨by simp [Running, hread], rfl⟩
  | some read =>
      obtain ⟨request, state⟩ := read
      cases state with
      | running => exact Or.inr ⟨request, rfl, rfl⟩
      | aborted => exact Or.inl ⟨by simp [Running, hread], rfl⟩
      | finished => exact Or.inl ⟨by simp [Running, hread], rfl⟩

/-- The end of a read concerns nothing but the reads and the answers that wait. -/
theorem complete_eq (session : Session) (source : Source) (place : Nat) : ∃ reads waiting,
    session.complete source place = { session with reads, waiting } := by
  rcases complete_cases session source place with ⟨_, hs⟩ | ⟨_, _, hs⟩
  · exact ⟨session.reads, session.waiting, hs⟩
  · exact ⟨_, _, hs⟩

theorem running_complete (session : Session) (source : Source) (place other : Nat) :
    (session.complete source place).Running other ↔ session.Running other ∧ other ≠ place := by
  rcases complete_cases session source place with ⟨hr, hs⟩ | ⟨request, hread, hs⟩
  · rw [hs]
    constructor
    · intro h
      exact ⟨h, by rintro rfl; exact hr h⟩
    · exact And.left
  · rw [hs]
    unfold Running
    simp only [Array.getElem?_modify]
    by_cases hp : place = other
    · subst hp
      simp [hread]
    · simp [hp, Ne.symm hp]

theorem Tended.complete {session : Session} (h : Tended session) (source : Source)
    (place : Nat) : Tended (session.complete source place) := by
  rcases complete_cases session source place with ⟨_, hs⟩ | ⟨request, hread, hs⟩
  · rw [hs]
    exact h
  · obtain ⟨hheld, _, hactivation, hendpoint⟩ := h.read_of_running hread ⟨request, hread⟩
    have hrunning := running_complete session source place
    rw [hs] at hrunning ⊢
    exact {
      answers := by
        intro action ha
        rcases List.mem_append.mp ha with ha | ha
        · exact h.answers action ha
        · exact ⟨_, _, List.mem_singleton.mp ha⟩
      started := h.started
      held := fun other ho => h.held other ((hrunning other).mp ho).1
      current := by
        intro other ho
        obtain rfl : place = other := by simpa [hheld] using ho
        refine ⟨⟨request, .finished⟩, ?_, hactivation, hendpoint⟩
        simp [Array.getElem?_modify, hread]
      awaited := by
        intro _
        refine Or.inr ⟨source.answer request.endpoint, request.endpoint, ?_, hendpoint,
          source.answer_fits request.endpoint⟩
        rw [Request.perform_eq, ← hactivation]
        exact List.mem_append_right _ (List.mem_singleton_self _) }

theorem Tended.finishAll {session : Session} (h : Tended session) (source : Source) :
    Tended (session.finishAll source) := by
  unfold Session.finishAll
  induction List.range session.reads.size generalizing session with
  | nil => exact h
  | cons place places ih => exact ih (h.complete source place)

/-- When all the reads have ended, none is under way. -/
theorem running_finishAll (session : Session) (source : Source) (place : Nat) :
    ¬ (session.finishAll source).Running place := by
  suffices hall : ∀ (places : List Nat) (session : Session),
      (places.foldl (complete · source) session).Running place →
        session.Running place ∧ place ∉ places by
    intro hr
    obtain ⟨⟨request, hread⟩, hp⟩ := hall _ session hr
    obtain ⟨hlt, _⟩ := Array.getElem?_eq_some_iff.mp hread
    exact hp (List.mem_range.mpr hlt)
  intro places
  induction places with
  | nil => exact fun _ h => ⟨h, List.not_mem_nil⟩
  | cons first places ih =>
      intro session h
      obtain ⟨hr, hp⟩ := ih _ h
      obtain ⟨hr, hne⟩ := (running_complete session source first place).mp hr
      exact ⟨hr, by simp [hne, hp]⟩

/-! ## Taking the answers in -/

/-- The invariant does not look at the presentation, nor at anything of the console but its view
and its activation. -/
theorem Tended.congr {session : Session} (h : Tended session) (console : Console)
    (hview : console.view = session.console.view)
    (hactivation : console.activation = session.console.activation)
    (presentation : Presentation) : Tended { session with console, presentation } where
  answers := h.answers
  started := by
    rw [hview]
    exact h.started
  held := h.held
  current := by
    simp only [hview, hactivation]
    exact h.current
  awaited := by
    simp only [hview, hactivation]
    exact h.awaited

theorem Tended.take {session : Session} {action : Action} {rest : List Action}
    (h : Tended { session with waiting := action :: rest }) :
    Tended { (session.dispatch action).1 with waiting := rest } := by
  obtain ⟨activation, answer, rfl⟩ := h.answers action List.mem_cons_self
  rw [dispatch_toAction]
  exact {
    answers := fun other ho => h.answers other (List.mem_cons_of_mem _ ho)
    started := Console.isUnread_deliver h.started activation answer
    held := h.held
    current := by simpa using h.current
    awaited := by
      intro hl
      obtain ⟨hloading, hother⟩ := Console.isLoading_of_deliver hl
      simp only [Console.deliver_activation, Console.deliver_endpoint?]
      rcases h.awaited hloading with hr | ⟨expected, endpoint, hm, he, hf⟩
      · exact Or.inl hr
      · refine Or.inr ⟨expected, endpoint, ?_, he, hf⟩
        rcases List.mem_cons.mp hm with heq | hm
        · obtain ⟨hc, rfl⟩ := Answer.toAction_inj heq
          exact absurd hc.symm (hother endpoint he hf)
        · exact hm }

/-- What the taking in of one answer keeps is kept when the first is taken in. -/
theorem takeFirst_induction {motive : Session → Prop}
    (take : ∀ (session : Session) (action : Action) (rest : List Action),
      motive { session with waiting := action :: rest } →
        motive { (session.dispatch action).1 with waiting := rest })
    {session : Session} (h : motive session) : motive session.takeFirst := by
  unfold takeFirst
  split
  · rename_i action rest hw
    rw [dispatch_waiting]
    refine take session action rest ?_
    rw [← hw]
    exact h
  · exact h

/-- Taking the waiting answers in, one after the other, keeps what each of them keeps. -/
theorem drain_induction {motive : Session → Prop}
    (take : ∀ (session : Session) (action : Action) (rest : List Action),
      motive { session with waiting := action :: rest } →
        motive { (session.dispatch action).1 with waiting := rest })
    {session : Session} (h : motive session) : motive session.drain := by
  suffices hall : ∀ (pending : List Action) (session : Session),
      motive { session with waiting := pending } →
        motive (pending.foldl (fun (session : Session) action => (session.dispatch action).1)
          { session with waiting := [] }) from hall session.waiting session h
  intro pending
  induction pending with
  | nil => exact fun _ h => h
  | cons action rest ih =>
      intro session h
      rw [List.foldl_cons, dispatch_waiting]
      exact ih _ (take session action rest h)

theorem drain_waiting (session : Session) : session.drain.waiting = [] := by
  suffices hall : ∀ (pending : List Action) (session : Session), session.waiting = [] →
      (pending.foldl (fun (session : Session) action => (session.dispatch action).1)
        session).waiting = [] from hall session.waiting _ rfl
  intro pending
  induction pending with
  | nil => exact fun _ h => h
  | cons action rest ih =>
      intro session h
      exact ih _ ((waiting_dispatch session action).trans h)

theorem Tended.takeFirst {session : Session} (h : Tended session) : Tended session.takeFirst :=
  takeFirst_induction (fun _ _ _ => Tended.take) h

theorem Tended.drain {session : Session} (h : Tended session) : Tended session.drain :=
  drain_induction (fun _ _ _ => Tended.take) h

/-- Nothing but answers waits, so taking them in starts no read. -/
theorem Tended.drain_reads {session : Session} (h : Tended session) :
    session.drain.reads = session.reads := by
  have hboth : Tended session.drain ∧ session.drain.reads = session.reads := by
    refine drain_induction (motive := fun drained => Tended drained ∧ drained.reads = session.reads)
      ?_ ⟨h, rfl⟩
    rintro drained action rest ⟨ht, hreads⟩
    refine ⟨ht.take, ?_⟩
    obtain ⟨activation, answer, rfl⟩ := ht.answers action List.mem_cons_self
    rw [dispatch_toAction]
    exact hreads
  exact hboth.2

/-- Once no read is under way and the answers are taken in, nothing is left to load. -/
theorem Tended.isLoading_drain {session : Session} (h : Tended session)
    (hr : ∀ place, ¬ session.Running place) :
    session.drain.console.view.isLoading = false := by
  rw [Bool.eq_false_iff]
  intro hl
  rcases h.drain.awaited hl with ⟨place, request, hread⟩ | ⟨answer, _, hm, _⟩
  · rw [h.drain_reads] at hread
    exact hr place ⟨request, hread⟩
  · rw [drain_waiting] at hm
    cases hm

/-! ## Every run -/

theorem Tended.dispatch {session : Session} (h : Tended session) {action : Action}
    (ha : action.addressee? = none) : Tended (session.dispatch action).1 := by
  rcases dispatch_cases session action with
    ⟨arrived, _, hs⟩ | ⟨activation, answer, rfl⟩ | ⟨_, status, hs⟩
  · rw [hs]
    exact h.advance arrived
  · simp at ha
  · rw [hs]
    exact h.congr { session.console with status } rfl rfl session.presentation

theorem Tended.press {session : Session} (h : Tended session) (key : Key) :
    Tended (session.press key).session := by
  unfold Session.press
  cases hp : session.presentation.press session.console.view key with
  | mk presentation action =>
      have hp' := h.congr _ rfl rfl presentation
      cases action with
      | none => exact hp'
      | some action =>
          have := hp'.dispatch (Presentation.press_addressee? hp)
          exact this.congr _ rfl rfl _

theorem tended_launch (path : String) : Tended (launch path) :=
  (Tended.new.dispatch (by rfl)).congr _ rfl rfl _

theorem Tended.happen {session : Session} (h : Tended session) (happening : Happening) :
    Tended (session.happen happening) := by
  cases happening with
  | press key => exact h.press key
  | complete place source => exact h.complete source place
  | take => exact h.takeFirst
  | drain => exact h.drain
  | draw width height turn => exact h.congr _ rfl rfl _

theorem tended_after (path : String) (run : List Happening) : Tended (after path run) := by
  induction run using List.reverseRecOn with
  | nil => exact tended_launch path
  | append_singleton run happening ih =>
      rw [after_concat]
      exact ih.happen happening

end HomeConsole.Session
