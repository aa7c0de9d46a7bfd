import HomeConsole.Proofs.Console.History
import HomeConsole.Proofs.Route.Resolve
import Mathlib.Data.List.Induction

/-!
# Where the shown data come from

Whatever the order in which answers are handed over, a view never shows the outcome of another read
than its own: the read was asked for in the activation that is current, and by the endpoint of the
view itself. The number of an activation stands for it as long as the numbers have not come round.
-/

namespace HomeConsole.History

/-- What holds after every event: the activation is the number of those that began, reads were asked
for in the activations that they carry, and a read of the current activation is that of the view. -/
structure Sound (run : List Event) (history : History) : Prop where
  counted : history.console.activation.toNat = activations run
  issued : ∀ request ∈ history.requests, Issued run request.activation request
  past : ∀ request ∈ history.requests, request.activation.toNat ≤ activations run
  own : ∀ request ∈ history.requests, request.activation = history.console.activation →
    history.console.view.endpoint? = some request.endpoint
  read : ∀ reading ∈ history.readings, reading.request ∈ history.requests
  shown : ∀ answer, history.console.view.outcome? = some answer →
    ∃ reading ∈ history.readings, reading.request.activation = history.console.activation ∧
      reading.source.answer reading.request.endpoint = answer

theorem Sound.start : Sound [] start where
  counted := rfl
  issued := by simp [History.start]
  past := by simp [History.start]
  own := by simp [History.start]
  read := by simp [History.start]
  shown := by simp [History.start, Console.new, View.outcome?]

/-! ## What each event keeps -/

/-- Events other than intents begin no activation. -/
theorem activations_concat_of_not {run : List Event} {event : Event}
    (h : event.activates = false) : activations (run ++ [event]) = activations run := by
  simp [activations_concat, h]

theorem Sound.extend {run : List Event} {event : Event} {history : History}
    (h : Sound run history) (he : event.activates = false) :
    Sound (run ++ [event]) history where
  counted := by rw [activations_concat_of_not he, h.counted]
  issued request hr := (h.issued request hr).concat event
  past request hr := by rw [activations_concat_of_not he]; exact h.past request hr
  own := h.own
  read := h.read
  shown := h.shown

/-- A read is made. -/
theorem Sound.made {run : List Event} {history : History} (h : Sound run history)
    {request : Request} (hr : request ∈ history.requests) (source : Source) :
    Sound run { history with readings := history.readings ++ [⟨request, source⟩] } where
  counted := h.counted
  issued := h.issued
  past := h.past
  own := h.own
  read := by
    intro reading hm
    rcases List.mem_append.mp hm with hm | hm
    · exact h.read reading hm
    · rw [List.mem_singleton.mp hm]
      exact hr
  shown answer ha := by
    obtain ⟨reading, hm, hn⟩ := h.shown answer ha
    exact ⟨reading, List.mem_append_left _ hm, hn⟩

/-- What was read is handed over. If it is taken in, its read is that of the view, and the view
shows it from then on. -/
theorem Sound.handed {run : List Event} {history : History} (h : Sound run history)
    {reading : Reading} (hm : reading ∈ history.readings) :
    Sound run (history.take reading.action) := by
  rw [take_reading]
  by_cases hn : reading.request.activation = history.console.activation
  · have hown := h.own _ (h.read reading hm) hn
    have hfit := reading.source.answer_fits reading.request.endpoint
    obtain ⟨hshown, _⟩ := View.finish_of_fits hown hfit
    rw [hn, Console.deliver_current]
    exact {
      counted := by simpa using h.counted
      issued := h.issued
      past := h.past
      own := by simpa using h.own
      read := h.read
      shown := by
        intro answer ha
        simp only [Console.receive_view, hshown, Option.some.injEq] at ha
        exact ⟨reading, hm, by simpa using hn, ha⟩ }
  · rw [Console.deliver_stale hn]
    exact h

theorem Sound.status {run : List Event} {history : History} (h : Sound run history)
    (status : String) :
    Sound run { history with console := { history.console with status } } where
  counted := h.counted
  issued := h.issued
  past := h.past
  own := h.own
  read := h.read
  shown := h.shown

/-- An activation begins. Its number is new, so that no read that was asked for before carries
it, and the view shows nothing yet. -/
theorem Sound.begun {run : List Event} {event : Event} {history : History} {arrived : Console}
    (h : Sound run history) (hn : arrived.activation = history.console.activation)
    (hcount : activations (run ++ [event]) = activations run + 1)
    (bounded : activations (run ++ [event]) < UInt64.size)
    (hissued : ∀ request, arrived.begin.effect = .fetch request →
      Issued (run ++ [event]) request.activation request) :
    Sound (run ++ [event])
      { history with
        console := arrived.begin.console
        requests := history.requests ++ arrived.begin.effect.request?.toList } := by
  have hnext : arrived.begin.console.activation.toNat = activations run + 1 := by
    rw [Console.begin_activation, UInt64.toNat_add, hn, h.counted]
    exact Nat.mod_eq_of_lt (hcount ▸ bounded)
  have hold : ∀ request ∈ history.requests,
      request.activation ≠ arrived.begin.console.activation := by
    intro request hr heq
    have := h.past request hr
    rw [heq, hnext] at this
    omega
  have hnew : ∀ request ∈ arrived.begin.effect.request?.toList,
      arrived.begin.effect = .fetch request ∧
        request.activation = arrived.begin.console.activation ∧
        arrived.begin.console.view.endpoint? = some request.endpoint := by
    intro request hr
    rw [Option.mem_toList, Effect.request?_eq_some] at hr
    exact ⟨hr, Console.begin_effect_eq_fetch.mp hr⟩
  exact {
    counted := by rw [hnext, hcount]
    issued := by
      intro request hr
      rcases List.mem_append.mp hr with hr | hr
      · exact (h.issued request hr).concat event
      · exact hissued request (hnew request hr).1
    past := by
      intro request hr
      rw [hcount]
      rcases List.mem_append.mp hr with hr | hr
      · exact Nat.le_succ_of_le (h.past request hr)
      · exact Nat.le_of_eq (by rw [(hnew request hr).2.1, hnext])
    own := by
      intro request hr heq
      rcases List.mem_append.mp hr with hr | hr
      · exact absurd heq (hold request hr)
      · exact (hnew request hr).2.2
    read := fun reading hm => List.mem_append_left _ (h.read reading hm)
    shown := by simp }

/-- A user asks for something. -/
theorem Sound.asked {run : List Event} (intent : Intent) (h : Sound run (after run))
    (bounded : activations (run ++ [.ask intent]) < UInt64.size) :
    Sound (run ++ [.ask intent]) ((after run).take intent.action) := by
  rcases Console.update_cases (after run).console intent.action with
    ⟨ha, arrived, hn, _, hc, he⟩ | ⟨_, activation, answer, hd⟩ | ⟨ha, _, status, hc, he⟩
  · simp only [take, hc, he]
    refine h.begun hn (by simp [activations_concat, Event.activates, ha]) bounded ?_
    intro request hr
    refine ⟨run, intent, [], rfl, by rw [he, hr], ?_⟩
    rw [hc, (Console.begin_effect_eq_fetch.mp hr).1]
  · have := intent.addressee?_action
    simp [hd] at this
  · have hnone : ((after run).console.update intent.action).effect.request? = none := by
      rw [Option.eq_none_iff_forall_ne_some]
      exact fun request hr => he request (Effect.request?_eq_some.mp hr)
    simp only [take, hc, hnone, Option.toList_none, List.append_nil]
    have hextended : Sound (run ++ [.ask intent]) (after run) := h.extend ha
    exact hextended.status status

/-! ## Runs -/

/-- Until the numbers of activations come round, every history is sound. -/
theorem sound_after {run : List Event} (bounded : activations run < UInt64.size) :
    Sound run (after run) := by
  induction run using List.reverseRecOn with
  | nil => exact Sound.start
  | append_singleton run event ih =>
      have h : Sound run (after run) := ih (by rw [activations_concat] at bounded; omega)
      rw [after_concat]
      cases event with
      | ask intent => exact h.asked intent bounded
      | read place source =>
          simp only [step]
          cases hr : (after run).requests[place]? with
          | none => exact h.extend rfl
          | some request => exact (h.extend rfl).made (List.mem_of_getElem? hr) source
      | deliver place =>
          simp only [step]
          cases hm : (after run).readings[place]? with
          | none => exact h.extend rfl
          | some reading => exact (h.extend rfl).handed (List.mem_of_getElem? hm)

/-- What a view shows, data or a failure, is the outcome of a read that was made for the activation
that is current, at the endpoint of that view. -/
theorem shown_outcome_was_read {run : List Event} (bounded : activations run < UInt64.size) :
    (∀ outcome, (after run).console.view = .overview (.ofOutcome outcome) →
      ∃ reading ∈ (after run).readings,
        Issued run (after run).console.activation reading.request ∧
          reading.request.endpoint = .list ∧ reading.source.list = outcome) ∧
    (∀ id outcome, (after run).console.view = .detail id (.ofOutcome outcome) →
      ∃ reading ∈ (after run).readings,
        Issued run (after run).console.activation reading.request ∧
          reading.request.endpoint = .one id ∧ reading.source.get id = outcome) := by
  have h := sound_after bounded
  have key : ∀ answer, (after run).console.view.outcome? = some answer →
      ∃ reading ∈ (after run).readings,
        Issued run (after run).console.activation reading.request ∧
          (after run).console.view.endpoint? = some reading.request.endpoint ∧
          reading.source.answer reading.request.endpoint = answer := by
    intro answer ha
    obtain ⟨reading, hm, hn, heq⟩ := h.shown answer ha
    have hr := h.read reading hm
    exact ⟨reading, hm, hn ▸ h.issued _ hr, h.own _ hr hn, heq⟩
  constructor
  · intro outcome hv
    obtain ⟨reading, hm, hi, he, heq⟩ := key (.list outcome) (by simp [hv, View.outcome?])
    have he : reading.request.endpoint = .list := by simpa [hv, View.endpoint?, eq_comm] using he
    refine ⟨reading, hm, hi, he, ?_⟩
    simpa [he, Source.answer] using heq
  · intro id outcome hv
    obtain ⟨reading, hm, hi, he, heq⟩ := key (.one outcome) (by simp [hv, View.outcome?])
    have he : reading.request.endpoint = .one id := by
      simpa [hv, View.endpoint?, eq_comm] using he
    refine ⟨reading, hm, hi, he, ?_⟩
    simpa [he, Source.answer] using heq

/-- The overview is read twice, and the answer to the first read comes in last. -/
def overtaken : List Event :=
  [.ask (.navigate "/modules"), .ask .reload,
    .read 0 ⟨.error (.network "reset"), fun _ => .error Catalogue.notFound⟩,
    .read 1 (Catalogue.source { records := [⟨.null⟩] }), .deliver 1, .deliver 0]

theorem overtaken_shows_the_second : activations overtaken < UInt64.size ∧
    (after overtaken).console.view = .overview (.ofOutcome (.ok [⟨.null⟩])) ∧
      ∃ reading ∈ (after overtaken).readings,
        Issued overtaken (after overtaken).console.activation reading.request ∧
          reading.request.endpoint = .list ∧ reading.source.list = .ok [⟨.null⟩] := by
  have hb : activations overtaken < UInt64.size := by decide
  have hv : (after overtaken).console.view = .overview (.ofOutcome (.ok [⟨.null⟩])) := by
    simp [after, overtaken, History.start, step, take, Intent.action, Console.update,
      Console.navigate, Route.resolve_overview, View.activate, Console.begin, View.endpoint?,
      View.loading, Effect.request?, Console.new, Reading.action, Source.answer,
      Answer.toAction, Console.deliver, Console.receive, View.finish, Catalogue.source,
      Catalogue.list]
  exact ⟨hb, hv, (shown_outcome_was_read hb).1 _ hv⟩

end HomeConsole.History
