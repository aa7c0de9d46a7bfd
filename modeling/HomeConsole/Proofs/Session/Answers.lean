import HomeConsole.Proofs.Route.Resolve
import HomeConsole.Proofs.Session.Reads

/-!
# The answers that wait

Whether a waiting answer is still wanted is told by the number of its activation alone, and these
numbers come round after 2^64 activations. As long as the answers are taken in more often than that,
a view that does not load waits for nothing: no read is under way, and no answer is due.
-/

namespace HomeConsole.Session

/-- The waiting answers that will be taken for answers to the current activation. -/
def due (session : Session) : List Action :=
  session.waiting.filter (·.addressee? == some session.console.activation)

/-- What holds as long as at most so many keys came in since the answers were last taken in. -/
structure Punctual (keys : Nat) (session : Session) : Prop where
  recent : ∀ action ∈ session.waiting, ∀ activation, action.addressee? = some activation →
    (session.console.activation - activation).toNat ≤ keys
  running : ∀ place, session.Running place →
    session.console.view.isLoading = true ∧ session.due = []
  due : ∀ action ∈ session.due, session.console.view.isLoading = true ∧ session.due = [action]

namespace Punctual

variable {keys : Nat} {session : Session}

theorem new : Punctual keys Session.new where
  recent := by simp [Session.new]
  running := by simp [Running, Session.new]
  due := by simp [Session.due, Session.new]

theorem mono {more : Nat} (h : Punctual keys session) (hk : keys ≤ more) :
    Punctual more session where
  recent action ha activation hn := Nat.le_trans (h.recent action ha activation hn) hk
  running := h.running
  due := h.due

theorem of_waiting_nil (h : Punctual keys session) (hw : session.waiting = []) :
    Punctual 0 session where
  recent := by simp [hw]
  running := h.running
  due := h.due

theorem congr (h : Punctual keys session) (console : Console)
    (hview : console.view = session.console.view)
    (hactivation : console.activation = session.console.activation)
    (presentation : Presentation) : Punctual keys { session with console, presentation } where
  recent := by
    simp only [hactivation]
    exact h.recent
  running := by
    simp only [Session.due, hview, hactivation]
    exact h.running
  due := by
    simp only [Session.due, hview, hactivation]
    exact h.due

/-! ## Another activation -/

theorem age_succ {current activation : UInt64} (h : (current - activation).toNat ≤ keys)
    (hk : keys + 1 < UInt64.size) :
    (current + 1 - activation).toNat ≤ keys + 1 ∧ activation ≠ current + 1 := by
  have hc := current.toNat_lt
  have ha := activation.toNat_lt
  simp only [UInt64.size] at hk
  refine ⟨?_, ?_⟩
  · simp only [UInt64.toNat_sub, UInt64.toNat_add, UInt64.toNat_one] at h ⊢
    omega
  · rintro rfl
    simp only [UInt64.toNat_sub, UInt64.toNat_add, UInt64.toNat_one] at h
    omega

/-- No answer is due when an activation begins. -/
theorem due_advance (h : Punctual keys session) (hk : keys + 1 < UInt64.size) {arrived : Console}
    (hn : arrived.activation = session.console.activation) :
    (session.advance arrived).due = [] := by
  simp only [Session.due, List.filter_eq_nil_iff, advance_waiting, advance_console,
    Console.begin_activation, hn, beq_iff_eq]
  intro action ha hc
  exact (age_succ (h.recent action ha _ hc) hk).2 rfl

theorem advance (h : Punctual keys session) (ht : Tended session) (hk : keys + 1 < UInt64.size)
    {arrived : Console} (hn : arrived.activation = session.console.activation) :
    Punctual (keys + 1) (session.advance arrived) where
  recent := by
    simp only [advance_waiting, advance_console, Console.begin_activation, hn]
    intro action ha activation hc
    exact (age_succ (h.recent action ha activation hc) hk).1
  running place hr := by
    obtain ⟨hsome, _⟩ := ht.running_advance.mp hr
    exact ⟨by simpa [advance_console] using hsome, h.due_advance hk hn⟩
  due := by simp [h.due_advance hk hn]

/-! ## The end of a read -/

theorem complete (h : Punctual keys session) (ht : Tended session) (source : Source)
    (place : Nat) : Punctual keys (session.complete source place) := by
  rcases complete_cases session source place with ⟨_, hs⟩ | ⟨request, hread, hs⟩
  · rw [hs]
    exact h
  · have hrun : session.Running place := ⟨request, hread⟩
    obtain ⟨hheld, _, hactivation, _⟩ := ht.read_of_running hread hrun
    obtain ⟨hloading, hdue⟩ := h.running place hrun
    have hdue' : (session.complete source place).due = [request.perform source] := by
      rw [hs]
      simp only [Session.due, List.filter_append, Request.perform_eq] at hdue ⊢
      rw [hdue, ← hactivation]
      simp
    have hrunning := running_complete session source place
    rw [hs] at hdue' hrunning ⊢
    exact {
      recent := by
        intro action ha activation hc
        rcases List.mem_append.mp ha with ha | ha
        · exact h.recent action ha activation hc
        · obtain rfl := List.mem_singleton.mp ha
          simp only [Request.perform_eq, Answer.addressee?_toAction, Option.some.injEq] at hc
          subst hc
          simp [← hactivation]
      running := by
        intro other ho
        obtain ⟨hother, hne⟩ := (hrunning other).mp ho
        have := ht.held other hother
        rw [hheld] at this
        exact absurd (Option.some.inj this).symm hne
      due := by
        rw [hdue']
        intro action ha
        exact ⟨hloading, by rw [List.mem_singleton.mp ha]⟩ }

/-! ## Taking the answers in -/

theorem take {action : Action} {rest : List Action}
    (h : Punctual keys { session with waiting := action :: rest })
    (ht : Tended { session with waiting := action :: rest }) :
    Punctual keys { (session.dispatch action).1 with waiting := rest } := by
  obtain ⟨activation, answer, rfl⟩ := ht.answers action List.mem_cons_self
  have hrecent : ∀ other ∈ rest, ∀ activation, other.addressee? = some activation →
      (session.console.activation - activation).toNat ≤ keys :=
    fun other ho => h.recent other (List.mem_cons_of_mem _ ho)
  rw [dispatch_toAction]
  by_cases hc : activation = session.console.activation
  · subst hc
    -- The answer was the only one that was due, and no read is under way.
    have hdue := (h.due (answer.toAction session.console.activation)
      (List.mem_filter.mpr ⟨List.mem_cons_self, by simp⟩)).2
    have hrest : Session.due { session with waiting := rest } = [] := by
      simpa [Session.due] using hdue
    refine ⟨by simpa using hrecent, ?_, ?_⟩
    · intro place hr
      have := (h.running place hr).2
      simp [this] at hdue
    · simp only [Session.due, Console.deliver_activation] at hrest ⊢
      simp [hrest]
  · have hrest : Session.due { session with waiting := answer.toAction activation :: rest } =
        Session.due { session with waiting := rest } := by
      simp [Session.due, hc]
    rw [Console.deliver_stale hc]
    refine ⟨hrecent, ?_, ?_⟩
    · intro place hr
      rw [← hrest]
      exact h.running place hr
    · intro action ha
      rw [← hrest] at ha ⊢
      exact h.due action ha

theorem takeFirst (h : Punctual keys session) (ht : Tended session) :
    Punctual keys session.takeFirst := by
  have hboth : Tended session.takeFirst ∧ Punctual keys session.takeFirst := by
    refine takeFirst_induction (motive := fun session => Tended session ∧ Punctual keys session)
      ?_ ⟨ht, h⟩
    rintro session action rest ⟨ht, h⟩
    exact ⟨ht.take, h.take ht⟩
  exact hboth.2

/-- Once the answers are taken in none of them waits, so the keys are counted anew. -/
theorem drain (h : Punctual keys session) (ht : Tended session) : Punctual 0 session.drain := by
  have hboth : Tended session.drain ∧ Punctual keys session.drain := by
    refine drain_induction (motive := fun session => Tended session ∧ Punctual keys session)
      ?_ ⟨ht, h⟩
    rintro session action rest ⟨ht, h⟩
    exact ⟨ht.take, h.take ht⟩
  exact hboth.2.of_waiting_nil (drain_waiting session)

/-! ## Every run -/

theorem dispatch (h : Punctual keys session) (ht : Tended session) (hk : keys + 1 < UInt64.size)
    {action : Action} (ha : action.addressee? = none) :
    Punctual (keys + 1) (session.dispatch action).1 := by
  rcases dispatch_cases session action with
    ⟨arrived, hn, hs⟩ | ⟨activation, answer, rfl⟩ | ⟨_, status, hs⟩
  · rw [hs]
    exact h.advance ht hk hn
  · simp at ha
  · rw [hs]
    exact (h.mono (Nat.le_succ keys)).congr { session.console with status } rfl rfl
      session.presentation

theorem press (h : Punctual keys session) (ht : Tended session) (hk : keys + 1 < UInt64.size)
    (key : Key) : Punctual (keys + 1) (session.press key).session := by
  unfold Session.press
  cases hp : session.presentation.press session.console.view key with
  | mk presentation action =>
      have hp' := h.congr _ rfl rfl presentation
      cases action with
      | none => exact hp'.mono (Nat.le_succ keys)
      | some action =>
          have := hp'.dispatch (ht.congr _ rfl rfl presentation) hk
            (Presentation.press_addressee? hp)
          exact this.congr _ rfl rfl _

theorem launch (path : String) : Punctual 0 (launch path) := by
  have h : Punctual 1 (Session.new.dispatch (.navigate path)).1 :=
    new.dispatch Tended.new (by decide) rfl
  exact (h.of_waiting_nil (waiting_dispatch _ _)).congr _ rfl rfl _

end Punctual

/-- The keys that came in since the answers were last taken in. -/
def keysSinceDrain (run : List Happening) : Nat :=
  run.foldl (fun keys happening =>
    match happening with
    | .press _ => keys + 1
    | .drain => 0
    | _ => keys) 0

/-- The answers are taken in before the numbers of the activations come round. A running console
takes them in after every batch of keys. -/
def Timely (run : List Happening) : Prop :=
  ∀ initial, initial <+: run → keysSinceDrain initial < UInt64.size

theorem punctual_after (path : String) {run : List Happening} (timely : Timely run) :
    Punctual (keysSinceDrain run) (after path run) := by
  induction run using List.reverseRecOn with
  | nil => exact .launch path
  | append_singleton run happening ih =>
      have h := ih fun initial hi => timely initial (hi.trans (List.prefix_append _ _))
      have ht := tended_after path run
      have hk := timely _ (List.prefix_refl _)
      simp only [keysSinceDrain, List.foldl_append, List.foldl_cons, List.foldl_nil] at hk ⊢
      rw [after_concat]
      cases happening with
      | press key => exact h.press ht hk key
      | complete place source => exact h.complete ht source place
      | take => exact h.takeFirst ht
      | drain => exact h.drain ht
      | draw width height turn => exact h.congr _ rfl rfl _

/-! ## No read is stuck, and none is doubled -/

/-- The read of the current activation is under way, or an answer to it waits. -/
def Awaits (session : Session) : Prop :=
  (∃ read ∈ session.reads, read.request.activation = session.console.activation ∧
    read.state = .running) ∨
  ∃ action ∈ session.waiting, action.addressee? = some session.console.activation

theorem Tended.awaits {session : Session} (h : Tended session)
    (hl : session.console.view.isLoading = true) : session.Awaits := by
  rcases h.awaited hl with ⟨place, hr⟩ | ⟨answer, endpoint, hm, _, _⟩
  · obtain ⟨request, hread⟩ := hr
    obtain ⟨_, hs, hactivation, _⟩ := h.read_of_running hread ⟨request, hread⟩
    exact Or.inl ⟨_, Array.mem_of_getElem? hread, hactivation, hs⟩
  · exact Or.inr ⟨_, hm, answer.addressee?_toAction _⟩

theorem Punctual.isLoading_of_awaits {keys : Nat} {session : Session}
    (h : Punctual keys session) (ha : session.Awaits) : session.console.view.isLoading = true := by
  rcases ha with ⟨read, hm, _, hs⟩ | ⟨action, hm, hc⟩
  · obtain ⟨place, _, hr⟩ := exists_running_of_mem hm hs
    exact (h.running place hr).1
  · exact (h.due action (List.mem_filter.mpr ⟨hm, by simp [hc]⟩)).1

/-- In every state of every run, at most one read is under way, and it is the one of the current
activation; a view that loads awaits its answer, and as long as the answers are taken in in time a
view that does not load awaits none; no view stays unread; and when all the reads have ended and
the answers are taken in, the view does not load. -/
theorem no_read_stuck_or_doubled (path : String) (run : List Happening) :
    (∀ read ∈ (after path run).reads,
        read.request.activation ≠ (after path run).console.activation →
          read.state = .aborted ∨ read.state = .finished) ∧
      ((after path run).running.length ≤ 1) ∧
      ((after path run).console.view.isLoading = true → (after path run).Awaits) ∧
      (Timely run → ((after path run).console.view.isLoading = true ↔ (after path run).Awaits)) ∧
      (after path run).console.view.isUnread = false ∧
      ∀ source, ((after path run).finishAll source).running = [] ∧
        ((after path run).finishAll source).drain.console.view.isLoading = false := by
  have h := tended_after path run
  refine ⟨?_, h.running_length_le, h.awaits, ?_, h.started, ?_⟩
  · intro read hm hn
    cases hs : read.state with
    | running =>
        obtain ⟨place, hread, hr⟩ := exists_running_of_mem hm hs
        exact absurd (h.read_of_running hread hr).2.2.1 hn
    | aborted => exact Or.inl rfl
    | finished => exact Or.inr rfl
  · intro timely
    exact ⟨h.awaits, (punctual_after path timely).isLoading_of_awaits⟩
  · intro source
    have hfinished := running_finishAll (after path run) source
    exact ⟨running_eq_nil hfinished, (h.finishAll source).isLoading_drain hfinished⟩

theorem keysSinceDrain_le_length (run : List Happening) : keysSinceDrain run ≤ run.length := by
  induction run using List.reverseRecOn with
  | nil => exact Nat.le_refl 0
  | append_singleton run happening ih =>
      simp only [keysSinceDrain, List.foldl_append, List.foldl_cons, List.foldl_nil,
        List.length_append, List.length_singleton] at ih ⊢
      cases happening <;> simp only <;> omega

theorem timely_of_length {run : List Happening} (h : run.length < UInt64.size) : Timely run :=
  fun initial hi =>
    Nat.lt_of_le_of_lt (Nat.le_trans (keysSinceDrain_le_length initial) hi.length_le) h

theorem launch_overview : launch "/modules" =
    { console := ⟨.loggedOut, "/modules", .overview, .overview .loading, 1, ""⟩
      presentation := { path := "/modules" }
      reads := #[⟨⟨1, .list⟩, .running⟩]
      held := some 0
      waiting := [] } := by
  simp [launch, dispatch, Console.update, Console.navigate, Route.resolve_overview,
    Console.arrivalStatus, Console.begin, View.activate, View.endpoint?, View.loading, new,
    Console.new, Login.settle, release, start, follow, Presentation.follow, Presentation.new]

/-- The overview is asked for again before the answer to its first read was taken in. -/
def repeated : List Happening :=
  [.complete 0 (Catalogue.source { records := [] }), .press (.char 'r'), .take]

theorem repeated_awaits : Timely repeated ∧
    (after "/modules" repeated).console.view.isLoading = true ∧
      (after "/modules" repeated).Awaits := by
  have timely : Timely repeated := timely_of_length (by decide)
  have hl : (after "/modules" repeated).console.view.isLoading = true := by
    simp [after, repeated, happen, launch_overview, complete, finish, press_reload,
      Catalogue.source, Catalogue.list, Source.answer, follow, advance, release, start, takeFirst,
      dispatch_toAction, Console.begin, View.endpoint?, View.loading, View.isLoading,
      Console.deliver, Presentation.follow, Load.isLoading]
  exact ⟨timely, hl, ((no_read_stuck_or_doubled "/modules" repeated).2.2.2.1 timely).mp hl⟩

/-! ## When the numbers come round -/

theorem follow_prompt (session : Session) :
    session.follow.presentation.prompt = session.presentation.prompt := by
  unfold follow Presentation.follow
  simp only
  split <;> rfl

theorem advance_presentation (session : Session) (arrived : Console) :
    (session.advance arrived).presentation = session.presentation := by
  unfold advance
  cases arrived.view.endpoint? <;> simp only [start, release] <;> split <;> rfl

/-- The session after so many reloads in a row. -/
def reloaded (session : Session) (count : Nat) : Session :=
  (List.replicate count (.press (.char 'r'))).foldl happen session

theorem reloaded_succ (session : Session) (count : Nat) :
    session.reloaded (count + 1) = ((session.reloaded count).press (.char 'r')).session := by
  simp [reloaded, List.replicate_succ', happen]

theorem Tended.reloaded {session : Session} (h : Tended session) (count : Nat) :
    Tended (session.reloaded count) := by
  induction count with
  | zero => exact h
  | succ count ih =>
      rw [reloaded_succ]
      exact ih.press _

theorem prompt_reloaded {session : Session} (h : session.presentation.prompt = none)
    (count : Nat) : (session.reloaded count).presentation.prompt = none := by
  induction count with
  | zero => exact h
  | succ count ih =>
      rw [reloaded_succ, press_reload ih, follow_prompt, advance_presentation, ih]

theorem reloaded_succ_eq_advance {session : Session} (h : session.presentation.prompt = none)
    (count : Nat) : session.reloaded (count + 1) =
      ((session.reloaded count).advance (session.reloaded count).console).follow := by
  rw [reloaded_succ, press_reload (prompt_reloaded h count)]

theorem waiting_reloaded {session : Session} (h : session.presentation.prompt = none)
    (count : Nat) : (session.reloaded count).waiting = session.waiting := by
  induction count with
  | zero => rfl
  | succ count ih => simp [reloaded_succ_eq_advance h, follow, advance_waiting, ih]

theorem activation_reloaded {session : Session} (h : session.presentation.prompt = none)
    (count : Nat) : (session.reloaded count).console.activation =
      session.console.activation + UInt64.ofNat count := by
  induction count with
  | zero => simp [reloaded]
  | succ count ih =>
      simp [reloaded_succ_eq_advance h, follow, advance_console, ih, UInt64.add_assoc]

theorem endpoint?_reloaded {session : Session} (h : session.presentation.prompt = none)
    (count : Nat) : (session.reloaded count).console.view.endpoint? =
      session.console.view.endpoint? := by
  induction count with
  | zero => rfl
  | succ count ih => simp [reloaded_succ_eq_advance h, follow, advance_console, ih]

theorem running_reloaded {session : Session} (ht : Tended session)
    (h : session.presentation.prompt = none) (he : session.console.view.endpoint?.isSome = true)
    (count : Nat) : ∃ place, (session.reloaded (count + 1)).Running place := by
  rw [reloaded_succ_eq_advance h]
  exact ⟨_, (ht.reloaded count).running_advance.mpr ⟨by rw [endpoint?_reloaded h, he], rfl⟩⟩

theorem takeFirst_of_current {session : Session} {answer : Answer} {rest : List Action}
    (hw : session.waiting = answer.toAction session.console.activation :: rest) :
    session.takeFirst =
      { session with
        console := (session.console.receive answer).console
        waiting := rest } := by
  unfold takeFirst
  rw [hw]
  simp only
  rw [dispatch_toAction, Console.deliver_current]

/-- An answer that waits until the numbers have come round is taken for an answer to the last read,
which is still under way. -/
theorem reloaded_round {session : Session} (ht : Tended session)
    (h : session.presentation.prompt = none) {answer : Answer} {rest : List Action}
    (hw : session.waiting = answer.toAction session.console.activation :: rest)
    {endpoint : Endpoint} (he : session.console.view.endpoint? = some endpoint)
    (hf : View.fits answer endpoint = true) {count : Nat}
    (hround : UInt64.ofNat (count + 1) = 0) :
    (session.reloaded (count + 1)).takeFirst.console.view.isLoading = false ∧
      (session.reloaded (count + 1)).takeFirst.Awaits := by
  have ha := activation_reloaded h (count + 1)
  rw [hround, UInt64.add_zero] at ha
  have hw' := waiting_reloaded h (count + 1)
  rw [hw, ← ha] at hw'
  have he' := endpoint?_reloaded h (count + 1)
  rw [he] at he'
  obtain ⟨place, request, hread⟩ := running_reloaded ht h (by rw [he]; rfl) count
  obtain ⟨_, hs, hactivation, _⟩ :=
    (ht.reloaded (count + 1)).read_of_running hread ⟨request, hread⟩
  rw [takeFirst_of_current hw']
  refine ⟨?_, Or.inl ⟨_, Array.mem_of_getElem? hread, ?_, hs⟩⟩
  · simp only [Console.receive_view]
    exact (View.finish_of_fits he' hf).2
  · simp only [Console.receive_activation]
    exact hactivation

/-- So the answers have to be taken in in time: with 2^64 reloads in a row, a view that does not
load can still await its answer. -/
theorem not_isLoading_iff_awaits : ¬ ∀ path run,
    (after path run).console.view.isLoading = true ↔ (after path run).Awaits := by
  intro hall
  obtain ⟨count, hround⟩ : ∃ count, UInt64.ofNat (count + 1) = 0 :=
    ⟨UInt64.size - 1, by decide⟩
  let source := Catalogue.source { records := [] }
  have hfirst : after "/modules" [.complete 0 source] =
      { console := ⟨.loggedOut, "/modules", .overview, .overview .loading, 1, ""⟩
        presentation := { path := "/modules" }
        reads := #[⟨⟨1, .list⟩, .finished⟩]
        held := some 0
        waiting := [Answer.toAction 1 (.list (.ok []))] } := by
    simp [after, happen, launch_overview, complete, finish, source, Catalogue.source,
      Catalogue.list, Source.answer]
  have ht := tended_after "/modules" [.complete 0 source]
  have hlast : after "/modules" (.complete 0 source ::
      List.replicate (count + 1) (.press (.char 'r')) ++ [.take]) =
        ((after "/modules" [.complete 0 source]).reloaded (count + 1)).takeFirst := by
    rw [after_concat]
    rfl
  have hl := hall "/modules" (.complete 0 source ::
    List.replicate (count + 1) (.press (.char 'r')) ++ [.take])
  rw [hlast] at hl
  rw [hfirst] at ht hl
  obtain ⟨hloading, hawaits⟩ := reloaded_round ht rfl rfl rfl rfl hround
  rw [hl.mpr hawaits] at hloading
  cases hloading

end HomeConsole.Session
