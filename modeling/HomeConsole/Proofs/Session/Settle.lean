import HomeConsole.Proofs.Session.Answers

/-!
# A session that comes to rest

The reads that are under way end, and the answers are taken in. What the view shows then comes from
its own read alone: whatever waited before is taken in first, and the answer to the read that was
under way comes last.
-/

namespace HomeConsole

theorem View.finish_congr {view other : View} {endpoint : Endpoint} {answer : Answer}
    (h : view.endpoint? = some endpoint) (ho : other.endpoint? = some endpoint)
    (hf : fits answer endpoint = true) : view.finish answer = other.finish answer := by
  cases view with
  | home => cases h
  | dashboard => cases h
  | overview records =>
      cases h
      cases other <;> cases ho
      cases answer <;> first | rfl | cases hf
  | detail id record =>
      cases h
      cases other <;> cases ho
      cases answer <;> first | rfl | cases hf

namespace Console

theorem receive_console (console : Console) (answer : Answer) : ∃ status,
    (console.receive answer).console =
      { console with status, view := console.view.finish answer } := by
  refine ⟨(console.receive answer).console.status, ?_⟩
  obtain ⟨_, _, _, view, _, _⟩ := console
  cases view <;> cases answer <;> rfl

theorem deliver_console (console : Console) (activation : UInt64) (answer : Answer) :
    ∃ status view, (console.deliver activation answer).console = { console with status, view } ∧
      view.endpoint? = console.view.endpoint? := by
  unfold deliver
  split
  · obtain ⟨status, hc⟩ := receive_console console answer
    exact ⟨status, _, hc, View.endpoint?_finish _ _⟩
  · exact ⟨console.status, console.view, rfl, rfl⟩

/-- Answers change the status and the view at most, and not what the view asks for. -/
theorem takeAll_console {actions : List Action}
    (h : ∀ action ∈ actions, ∃ activation answer, action = Answer.toAction activation answer)
    (console : Console) :
    ∃ status view, console.takeAll actions = { console with status, view } ∧
      view.endpoint? = console.view.endpoint? := by
  induction actions generalizing console with
  | nil => exact ⟨console.status, console.view, rfl, rfl⟩
  | cons action actions ih =>
      obtain ⟨activation, answer, rfl⟩ := h _ List.mem_cons_self
      obtain ⟨_, _, hfirst, hsame⟩ := deliver_console console activation answer
      obtain ⟨status, view, hc, he⟩ := ih (fun other ho => h other (List.mem_cons_of_mem _ ho))
        (console.update (answer.toAction activation)).console
      refine ⟨status, view, hc.trans ?_, he.trans ?_⟩
      · rw [update_toAction, hfirst]
      · rw [update_toAction, hfirst, hsame]

/-- The answer that is taken in last decides what the view shows. -/
theorem takeAll_concat {actions : List Action}
    (h : ∀ action ∈ actions, ∃ activation answer, action = Answer.toAction activation answer)
    {console : Console} {endpoint : Endpoint} (he : console.view.endpoint? = some endpoint)
    {answer : Answer} (hf : View.fits answer endpoint = true) :
    ∃ status, console.takeAll (actions ++ [answer.toAction console.activation]) =
      { console with status, view := console.view.finish answer } := by
  obtain ⟨_, view, hc, hsame⟩ := takeAll_console h console
  obtain ⟨status, hlast⟩ := receive_console (console.takeAll actions) answer
  have hstep : console.takeAll (actions ++ [answer.toAction console.activation]) =
      ((console.takeAll actions).deliver console.activation answer).console := by
    rw [← update_toAction]
    simp [takeAll]
  have hactivation : console.activation = (console.takeAll actions).activation := by rw [hc]
  refine ⟨status, ?_⟩
  rw [hstep, hactivation, deliver_current, hlast, hc]
  simp only
  rw [View.finish_congr (hsame.trans he) he hf]

end Console

namespace Session

variable {session : Session}

/-- All reads that are under way end with the answers of a source, and then all answers are taken
in. -/
def settle (session : Session) (source : Source) : Session := (session.finishAll source).drain

/-! ## The end of the reads -/

theorem complete_of_not_running {place : Nat} (h : ¬ session.Running place) (source : Source) :
    session.complete source place = session := by
  rcases complete_cases session source place with ⟨_, hs⟩ | ⟨request, hread, _⟩
  · exact hs
  · exact absurd ⟨request, hread⟩ h

theorem foldl_complete_of_not_running {places : List Nat}
    (h : ∀ place ∈ places, ¬ session.Running place) (source : Source) :
    places.foldl (Session.complete · source) session = session := by
  induction places with
  | nil => rfl
  | cons place places ih =>
      rw [List.foldl_cons, complete_of_not_running (h place List.mem_cons_self)]
      exact ih fun other ho => h other (List.mem_cons_of_mem _ ho)

theorem finishAll_of_not_running (h : ∀ place, ¬ session.Running place) (source : Source) :
    session.finishAll source = session :=
  foldl_complete_of_not_running (fun place _ => h place) source

/-- Where one read is under way, its end is the end of all. -/
theorem Tended.finishAll_eq_complete (h : Tended session) {place : Nat}
    (hr : session.Running place) (source : Source) :
    session.finishAll source = session.complete source place := by
  obtain ⟨request, hread⟩ := hr
  obtain ⟨hlt, _⟩ := Array.getElem?_eq_some_iff.mp hread
  obtain ⟨before, behind, hrange⟩ := List.append_of_mem (List.mem_range.mpr hlt)
  have hnodup : (before ++ place :: behind).Nodup := hrange ▸ List.nodup_range
  have hheld := h.held place ⟨request, hread⟩
  have honly : ∀ other, session.Running other → other = place := by
    intro other ho
    rw [h.held other ho] at hheld
    exact Option.some.inj hheld
  -- the other places are left alone, before the read has ended as after
  have hbefore : before.foldl (Session.complete · source) session = session := by
    refine foldl_complete_of_not_running ?_ source
    intro other ho hr
    rw [honly other hr] at ho
    exact (List.nodup_append.mp hnodup).2.2 place ho place List.mem_cons_self rfl
  have hbehind : behind.foldl (Session.complete · source) (session.complete source place) =
      session.complete source place := by
    refine foldl_complete_of_not_running ?_ source
    intro other _ hr
    obtain ⟨hr, hne⟩ := (running_complete session source place other).mp hr
    exact hne (honly other hr)
  rw [Session.finishAll, hrange, List.foldl_append, hbefore, List.foldl_cons, hbehind]

/-! ## Taking the answers in -/

/-- Taking answers in changes nothing but the console. -/
theorem drain_eq (h : ∀ action ∈ session.waiting, ∃ activation answer,
      action = Answer.toAction activation answer) :
    session.drain =
      { session with console := session.console.takeAll session.waiting, waiting := [] } := by
  suffices hall : ∀ (actions : List Action) (session : Session),
      (∀ action ∈ actions, ∃ activation answer, action = Answer.toAction activation answer) →
        actions.foldl (fun session action => (session.dispatch action).1) session =
          { session with console := session.console.takeAll actions } from
    hall session.waiting { session with waiting := [] } h
  intro actions
  induction actions with
  | nil => exact fun _ _ => rfl
  | cons action actions ih =>
      intro session h
      obtain ⟨activation, answer, rfl⟩ := h _ List.mem_cons_self
      rw [List.foldl_cons, ih _ fun other ho => h other (List.mem_cons_of_mem _ ho),
        dispatch_toAction, ← Console.update_toAction]
      rfl

theorem Tended.settle (h : Tended session) (source : Source) : Tended (session.settle source) :=
  (h.finishAll source).drain

theorem Tended.running_settle (h : Tended session) (source : Source) (place : Nat) :
    ¬ (session.settle source).Running place := by
  rintro ⟨request, hread⟩
  rw [Session.settle, (h.finishAll source).drain_reads] at hread
  exact running_finishAll session source place ⟨request, hread⟩

theorem settle_of_idle (h : ∀ place, ¬ session.Running place) (hw : session.waiting = [])
    (source : Source) : session.settle source = session := by
  rw [settle, finishAll_of_not_running h, drain_eq (by simp [hw]), hw]
  cases session
  cases hw
  rfl

/-- A session with a read under way comes to rest with the answer to that read in its view, on the
same page. -/
theorem Tended.settle_of_running (h : Tended session) {place : Nat} {request : Request}
    (hread : session.reads[place]? = some ⟨request, .running⟩) (source : Source) :
    ∃ status, session.settle source =
      { session with
        console := { session.console with
          status
          view := session.console.view.finish (source.answer request.endpoint) }
        reads := session.reads.modify place fun read => { read with state := .finished }
        waiting := [] } := by
  obtain ⟨_, _, hactivation, hendpoint⟩ := h.read_of_running hread ⟨request, hread⟩
  have hanswers : ∀ action ∈ (session.finishAll source).waiting, ∃ activation answer,
      action = Answer.toAction activation answer := (h.finishAll source).answers
  rcases complete_cases session source place with ⟨hr, _⟩ | ⟨found, hfound, hs⟩
  · exact absurd ⟨request, hread⟩ hr
  · obtain rfl : request = found := by simpa [hread] using hfound
    obtain ⟨status, hc⟩ := Console.takeAll_concat h.answers hendpoint
      (source.answer_fits request.endpoint)
    refine ⟨status, ?_⟩
    rw [Session.settle, drain_eq hanswers, h.finishAll_eq_complete ⟨request, hread⟩, hs]
    simp only [Request.perform_eq]
    rw [hactivation, hc]

/-! ## A new activation comes to rest -/

/-- The read of a new activation is under way behind all the others. -/
theorem advance_read {arrived : Console} {endpoint : Endpoint}
    (h : arrived.view.endpoint? = some endpoint) :
    (session.advance arrived).reads.size = session.reads.size + 1 ∧
      (session.advance arrived).reads[session.reads.size]? =
        some ⟨⟨arrived.activation + 1, endpoint⟩, .running⟩ := by
  have hsize : ({ session with console := arrived.begin.console } : Session).release.reads.size =
      session.reads.size := by
    unfold release
    split <;> simp
  refine ⟨by simp [advance, h, start, hsize], ?_⟩
  simp only [advance, h, start, Array.getElem?_push, hsize, if_pos]

/-- A session that went on to a page comes to rest there, with the answer to the read of the page in
its view. That read is the last that was made. -/
theorem Tended.settle_advance (h : Tended session) {arrived : Console} {endpoint : Endpoint}
    (he : arrived.view.endpoint? = some endpoint) (source : Source) :
    let settled := (session.advance arrived).follow.settle source
    settled.console.path = arrived.path ∧
      settled.console.view = arrived.view.finish (source.answer endpoint) ∧
      settled.presentation = session.presentation.follow arrived.path ∧
      settled.reads.back? = some ⟨⟨settled.console.activation, endpoint⟩, .finished⟩ := by
  intro settled
  have htended : Tended (session.advance arrived).follow :=
    (h.advance arrived).congr _ rfl rfl _
  obtain ⟨hsize, hread⟩ := @advance_read session _ _ he
  obtain ⟨status, hsettle⟩ := htended.settle_of_running hread source
  have hview : arrived.view.loading.finish (source.answer endpoint) =
      arrived.view.finish (source.answer endpoint) :=
    View.finish_congr (by simpa using he) he (source.answer_fits endpoint)
  have hback : settled.reads.back? = (session.advance arrived).reads[session.reads.size]?.map
      fun read => { read with state := .finished } := by
    simp only [settled, hsettle]
    rw [Array.back?_eq_getElem?, Array.size_modify]
    simp only [follow, hsize, Nat.add_sub_cancel, Array.getElem?_modify, if_pos]
  rw [hback, hread]
  simp only [settled, hsettle]
  refine ⟨?_, ?_, ?_, ?_⟩
  · simp [follow, advance_console]
  · simp [follow, advance_console, hview]
  · simp [follow, advance_console, advance_presentation]
  · simp [follow, advance_console]

end Session

end HomeConsole
