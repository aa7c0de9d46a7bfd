import HomeConsole.Proofs.Console.History
import HomeConsole.Proofs.Route.Resolve
import Mathlib.Data.List.Induction

/-!
# Schedules

The same intents, with the outcomes of the reads handed over at other times. What an outcome can
change of a console is taken back by the next activation: it shows in the view and in the status,
and both are set anew by then. So a console is followed without them, as its bare form, on which
no outcome has any influence and every intent acts alike; what is missing at the end is told by the
outcome of the last read alone.
-/

namespace HomeConsole

namespace Console

variable {console other : Console}

/-! ## What no outcome changes -/

/-- A console without what the outcome of its read decides. -/
def bare (console : Console) : Console :=
  { console with
    view := console.view.loading
    status := if console.view.endpoint?.isSome then "" else console.status }

theorem bare_receive (console : Console) (answer : Answer) :
    (console.receive answer).console.bare = console.bare := by
  unfold receive
  split
  · rename_i records outcome hv
    simp [bare, hv, View.finish, View.loading, View.endpoint?]
  · rename_i id record outcome hv
    simp [bare, hv, View.finish, View.loading, View.endpoint?]
  · rfl

theorem bare_deliver (console : Console) (activation : UInt64) (answer : Answer) :
    (console.deliver activation answer).console.bare = console.bare := by
  unfold deliver
  split
  · exact bare_receive console answer
  · rfl

theorem endpoint?_bare (console : Console) :
    console.bare.view.endpoint? = console.view.endpoint? :=
  View.endpoint?_loading console.view

theorem endpoint?_eq_of_bare (h : console.bare = other.bare) :
    console.view.endpoint? = other.view.endpoint? := by
  rw [← endpoint?_bare console, h, endpoint?_bare]

theorem activation_eq_of_bare (h : console.bare = other.bare) :
    console.activation = other.activation := by
  have ha := congrArg Console.activation h
  exact ha

/-- A view without a read is bare as it is. -/
theorem eq_of_bare_of_endpoint?_eq_none (h : console.bare = other.bare)
    (hn : console.view.endpoint? = none) : console = other := by
  have hn' : other.view.endpoint? = none := by rw [← endpoint?_eq_of_bare h, hn]
  simp only [bare, View.loading_of_endpoint?_eq_none, hn, hn', Option.isSome_none,
    Bool.false_eq_true, if_false] at h
  exact h

/-! ## What the intents do -/

theorem bare_begin (console : Console) :
    console.begin.console.bare = { console.bare with activation := console.activation + 1 } := by
  unfold begin
  cases hv : console.view <;> simp [bare, hv, View.endpoint?, View.loading]

theorem begin_congr (h : console.bare = other.bare) :
    console.begin.console.bare = other.begin.console.bare ∧
      console.begin.effect = other.begin.effect := by
  have ha := activation_eq_of_bare h
  constructor
  · rw [bare_begin, bare_begin, h, ha]
  · rw [begin_effect, begin_effect, endpoint?_eq_of_bare h, ha]

theorem arrive_congr (h : console.bare = other.bare) (path : String) :
    console.arrive path = other.arrive path := by
  have hl := congrArg Console.login h
  simp only [bare] at hl
  simp only [arrive, activation_eq_of_bare h, hl]

theorem bare_status (h : console.bare = other.bare) (status : String) :
    { console with status }.bare = { other with status }.bare := by
  have he := endpoint?_eq_of_bare h
  simp only [bare, Console.mk.injEq] at h ⊢
  simp [h, he]

/-- An intent acts alike on consoles with the same bare form. -/
theorem update_congr (h : console.bare = other.bare) (intent : Intent) :
    (console.update intent.action).console.bare = (other.update intent.action).console.bare ∧
      (console.update intent.action).effect = (other.update intent.action).effect := by
  cases intent with
  | navigate path =>
      obtain ⟨hc, he⟩ := console.update_navigate path
      obtain ⟨hc', he'⟩ := other.update_navigate path
      simp only [Intent.action, hc, he, hc', he', arrive_congr h, and_self]
  | openRecord record =>
      cases hr : record.id? with
      | some id =>
          obtain ⟨hc, he⟩ := console.update_openRecord hr
          obtain ⟨hc', he'⟩ := other.update_openRecord hr
          simp only [Intent.action, hc, he, hc', he', arrive_congr h, and_self]
      | none =>
          simp only [Intent.action, update_openRecord_none hr, bare_status h, and_self]
  | reload => exact begin_congr h
  | quit => exact ⟨h, rfl⟩

/-! ## What the outcome of the last read tells -/

theorem receive_bare {endpoint : Endpoint} (he : console.view.endpoint? = some endpoint)
    {answer : Answer} (hf : View.fits answer endpoint = true) :
    (console.bare.receive answer).console = (console.receive answer).console := by
  cases hv : console.view with
  | home => simp [hv, View.endpoint?] at he
  | dashboard => simp [hv, View.endpoint?] at he
  | overview records =>
      obtain rfl : Endpoint.list = endpoint := by simpa [hv, View.endpoint?] using he
      cases answer with
      | list outcome => simp [receive, bare, hv, View.loading, View.finish]
      | one outcome => simp [View.fits] at hf
  | detail id record =>
      obtain rfl : Endpoint.one id = endpoint := by simpa [hv, View.endpoint?] using he
      cases answer with
      | list outcome => simp [View.fits] at hf
      | one outcome => simp [receive, bare, hv, View.loading, View.finish]

theorem receive_receive (console : Console) (answer : Answer) :
    ((console.receive answer).console.receive answer).console =
      (console.receive answer).console := by
  cases hv : console.view <;> cases answer <;> simp [receive, hv, View.finish]

/-- Consoles with the same bare form are the same once they have taken the same answer in. -/
theorem eq_of_bare_of_receive (h : console.bare = other.bare) {endpoint : Endpoint}
    (he : console.view.endpoint? = some endpoint) {answer : Answer}
    (hf : View.fits answer endpoint = true) (hc : (console.receive answer).console = console)
    (ho : (other.receive answer).console = other) : console = other := by
  have he' : other.view.endpoint? = some endpoint := by rw [← endpoint?_eq_of_bare h, he]
  calc
    console = (console.receive answer).console := hc.symm
    _ = (console.bare.receive answer).console := (receive_bare he hf).symm
    _ = (other.bare.receive answer).console := by rw [h]
    _ = (other.receive answer).console := receive_bare he' hf
    _ = other := ho

end Console

/-! ## Courses -/

/-- Something that happens on a schedule. -/
inductive Turn where
  | ask (intent : Intent)
  /-- The outcome of the read at a place is handed over. -/
  | deliver (place : Nat)

/-- The intent of a turn. -/
def Turn.intent? : Turn → Option Intent
  | ask intent => some intent
  | deliver _ => none

/-- A read that was asked for, with the number of activations that had begun then. -/
structure Asked where
  ordinal : Nat
  request : Request

/-- A console with the number of activations that have begun and the reads that were asked for. -/
structure Course where
  console : Console
  begun : Nat
  asked : List Asked

namespace Course

/-- The course on which nothing has happened. -/
def start : Course := ⟨Console.new, 0, []⟩

/-- An intent is acted on. -/
def ask (course : Course) (intent : Intent) : Course :=
  let next := course.console.update intent.action
  let begun := if intent.action.activates then course.begun + 1 else course.begun
  { console := next.console
    begun
    asked := course.asked ++ next.effect.request?.toList.map (⟨begun, ·⟩) }

/-- The outcome of a read that was asked for is handed over. -/
def deliver (course : Course) (asked : Asked) (source : Source) : Course :=
  { course with console := (course.console.update (asked.request.perform source)).console }

/-- One turn. The read at a place has the same outcome whenever that is handed over, and there is
none before the read was asked for. -/
def step (outcomes : Nat → Source) (course : Course) : Turn → Course
  | .ask intent => course.ask intent
  | .deliver place =>
    match course.asked[place]? with
    | some asked => course.deliver asked (outcomes place)
    | none => course

/-- The course after a schedule. -/
def after (outcomes : Nat → Source) (schedule : List Turn) : Course :=
  schedule.foldl (step outcomes) start

/-- What the user asked for on a schedule, in order. -/
def intents (schedule : List Turn) : List Intent := schedule.filterMap Turn.intent?

/-- The last activation has no read, or its outcome is handed over after the last intent. -/
def Answered (outcomes : Nat → Source) (schedule : List Turn) : Prop :=
  ∀ place asked, (after outcomes schedule).asked[place]? = some asked →
    asked.ordinal = (after outcomes schedule).begun →
      ∃ early late, schedule = early ++ .deliver place :: late ∧ intents late = []

/-- No outcome comes so late that the numbers of activations have come round. -/
def Timely (outcomes : Nat → Source) (schedule : List Turn) : Prop :=
  ∀ early place late, schedule = early ++ .deliver place :: late →
    ∀ asked, (after outcomes early).asked[place]? = some asked →
      (after outcomes early).begun < asked.ordinal + UInt64.size

variable {outcomes : Nat → Source} {course other : Course}

theorem after_concat (outcomes : Nat → Source) (schedule : List Turn) (turn : Turn) :
    after outcomes (schedule ++ [turn]) = (after outcomes schedule).step outcomes turn := by
  simp [after]

theorem step_deliver_of_some {place : Nat} {asked : Asked}
    (h : course.asked[place]? = some asked) :
    course.step outcomes (.deliver place) = course.deliver asked (outcomes place) := by
  simp only [step, h]

theorem step_deliver_of_none {place : Nat} (h : course.asked[place]? = none) :
    course.step outcomes (.deliver place) = course := by
  simp only [step, h]

theorem deliver_console (course : Course) (asked : Asked) (source : Source) :
    (course.deliver asked source).console =
      (course.console.deliver asked.request.activation
        (source.answer asked.request.endpoint)).console := by
  simp [deliver, Console.update_toAction]

/-! ## Courses alike but for the outcomes -/

/-- The same activations, the same reads, and consoles with the same bare form. -/
structure Alike (course other : Course) : Prop where
  bare : course.console.bare = other.console.bare
  begun : course.begun = other.begun
  asked : course.asked = other.asked

theorem Alike.ask (h : Alike course other) (intent : Intent) :
    Alike (course.ask intent) (other.ask intent) := by
  obtain ⟨hc, he⟩ := Console.update_congr h.bare intent
  exact ⟨hc, by simp only [Course.ask, h.begun], by simp only [Course.ask, h.begun, h.asked, he]⟩

theorem Alike.deliver (h : Alike course other) (place : Nat) :
    Alike (course.step outcomes (.deliver place)) other := by
  cases hp : course.asked[place]? with
  | none =>
      rw [step_deliver_of_none hp]
      exact h
  | some asked =>
      rw [step_deliver_of_some hp]
      refine ⟨?_, h.begun, h.asked⟩
      rw [deliver_console, Console.bare_deliver]
      exact h.bare

/-- On any schedule the course is alike to that of the intents alone. -/
theorem alike_intents (outcomes : Nat → Source) (schedule : List Turn) :
    Alike (after outcomes schedule) (after outcomes ((intents schedule).map .ask)) := by
  induction schedule using List.reverseRecOn with
  | nil => exact ⟨rfl, rfl, rfl⟩
  | append_singleton schedule turn ih =>
      rw [after_concat]
      cases turn with
      | ask intent =>
          have hi : (intents (schedule ++ [.ask intent])).map Turn.ask =
              (intents schedule).map .ask ++ [.ask intent] := by
            simp [intents, Turn.intent?]
          rw [hi, after_concat]
          exact ih.ask intent
      | deliver place =>
          have hi : intents (schedule ++ [.deliver place]) = intents schedule := by
            simp [intents, Turn.intent?]
          rw [hi]
          exact ih.deliver place

theorem Alike.symm (h : Alike course other) : Alike other course :=
  ⟨h.bare.symm, h.begun.symm, h.asked.symm⟩

theorem Alike.trans {third : Course} (h : Alike course other) (h' : Alike other third) :
    Alike course third :=
  ⟨h.bare.trans h'.bare, h.begun.trans h'.begun, h.asked.trans h'.asked⟩

theorem alike_of_intents {first second : List Turn} (same : intents first = intents second)
    (outcomes : Nat → Source) : Alike (after outcomes first) (after outcomes second) := by
  have h := alike_intents outcomes first
  rw [same] at h
  exact h.trans (alike_intents outcomes second).symm

/-! ## The numbers of activations -/

/-- Reads carry the numbers of their activations, at most one read belongs to an activation, and
the read of the last one is that of the view. -/
structure Counted (course : Course) : Prop where
  current : course.console.activation = UInt64.ofNat course.begun
  numbered : ∀ asked ∈ course.asked,
    asked.request.activation = UInt64.ofNat asked.ordinal ∧ asked.ordinal ≤ course.begun
  apart : course.asked.Pairwise fun first second => first.ordinal < second.ordinal
  own : ∀ asked ∈ course.asked, asked.ordinal = course.begun →
    course.console.view.endpoint? = some asked.request.endpoint
  read : ∀ endpoint, course.console.view.endpoint? = some endpoint →
    ∃ asked ∈ course.asked, asked.ordinal = course.begun

theorem Counted.start : Counted start where
  current := rfl
  numbered := by simp [Course.start]
  apart := by simp [Course.start]
  own := by simp [Course.start]
  read := by simp [Course.start, Console.new, View.endpoint?]

/-- Only the activation and the read of the view are looked at. -/
theorem Counted.congr (h : Counted course) {console : Console}
    (ha : console.activation = course.console.activation)
    (he : console.view.endpoint? = course.console.view.endpoint?) :
    Counted { course with console } where
  current := ha.trans h.current
  numbered := h.numbered
  apart := h.apart
  own asked hm ho := he.trans (h.own asked hm ho)
  read endpoint hr := h.read endpoint (he.symm.trans hr)

theorem Counted.begin (h : Counted course) {arrived : Console}
    (hn : arrived.activation = course.console.activation) :
    Counted
      { console := arrived.begin.console
        begun := course.begun + 1
        asked := course.asked ++
          arrived.begin.effect.request?.toList.map (⟨course.begun + 1, ·⟩) } := by
  have hcurrent : arrived.begin.console.activation = UInt64.ofNat (course.begun + 1) := by
    rw [Console.begin_activation, hn, h.current, UInt64.ofNat_add]
    rfl
  have hnew : ∀ asked ∈ arrived.begin.effect.request?.toList.map (Asked.mk (course.begun + 1) ·),
      asked.ordinal = course.begun + 1 ∧
        asked.request.activation = arrived.begin.console.activation ∧
        arrived.begin.console.view.endpoint? = some asked.request.endpoint := by
    intro asked hm
    obtain ⟨request, hr, rfl⟩ := List.mem_map.mp hm
    rw [Option.mem_toList, Effect.request?_eq_some] at hr
    exact ⟨rfl, Console.begin_effect_eq_fetch.mp hr⟩
  exact {
    current := hcurrent
    numbered := by
      intro asked hm
      rcases List.mem_append.mp hm with hm | hm
      · obtain ⟨hr, hle⟩ := h.numbered asked hm
        exact ⟨hr, Nat.le_succ_of_le hle⟩
      · obtain ⟨ho, hr, _⟩ := hnew asked hm
        exact ⟨by rw [hr, hcurrent, ho], Nat.le_of_eq ho⟩
    apart := by
      refine List.pairwise_append.mpr ⟨h.apart, ?_, ?_⟩
      · cases arrived.begin.effect.request? <;> simp
      · intro first hf second hs
        rw [(hnew second hs).1]
        exact Nat.lt_succ_of_le (h.numbered first hf).2
    own := by
      intro asked hm ho
      rcases List.mem_append.mp hm with hm | hm
      · exact absurd ho (Nat.ne_of_lt (Nat.lt_succ_of_le (h.numbered asked hm).2))
      · exact (hnew asked hm).2.2
    read := by
      intro endpoint he
      let request : Request := ⟨arrived.begin.console.activation, endpoint⟩
      have hfetch : arrived.begin.effect = .fetch request :=
        Console.begin_effect_eq_fetch.mpr ⟨rfl, he⟩
      refine ⟨⟨course.begun + 1, request⟩, List.mem_append_right _ ?_, rfl⟩
      rw [hfetch]
      exact List.mem_singleton_self _ }

theorem Counted.ask (h : Counted course) (intent : Intent) : Counted (course.ask intent) := by
  rcases Console.update_cases course.console intent.action with
    ⟨ha, arrived, hn, _, hc, he⟩ | ⟨_, activation, answer, hd⟩ | ⟨ha, _, status, hc, he⟩
  · simp only [Course.ask, ha, if_true, hc, he]
    exact h.begin hn
  · have := intent.addressee?_action
    simp [hd] at this
  · have hnone : (course.console.update intent.action).effect.request? = none := by
      rw [Option.eq_none_iff_forall_ne_some]
      exact fun request hr => he request (Effect.request?_eq_some.mp hr)
    simp only [Course.ask, ha, Bool.false_eq_true, if_false, hc, hnone, Option.toList_none,
      List.map_nil, List.append_nil]
    exact h.congr rfl rfl

theorem Counted.deliver (h : Counted course) (asked : Asked) (source : Source) :
    Counted (course.deliver asked source) := by
  refine h.congr ?_ ?_
  · rw [Request.perform_eq, Console.update_toAction, Console.deliver_activation]
  · rw [Request.perform_eq, Console.update_toAction, Console.deliver_endpoint?]

theorem counted_after (outcomes : Nat → Source) (schedule : List Turn) :
    Counted (after outcomes schedule) := by
  induction schedule using List.reverseRecOn with
  | nil => exact .start
  | append_singleton schedule turn ih =>
      rw [after_concat]
      cases turn with
      | ask intent => exact ih.ask intent
      | deliver place =>
          cases hp : (after outcomes schedule).asked[place]? with
          | none =>
              rw [step_deliver_of_none hp]
              exact ih
          | some asked =>
              rw [step_deliver_of_some hp]
              exact ih.deliver asked _

theorem Counted.place_unique (h : Counted course) {place place' : Nat} {asked asked' : Asked}
    (hp : course.asked[place]? = some asked) (hp' : course.asked[place']? = some asked')
    (ho : asked.ordinal = asked'.ordinal) : place = place' := by
  obtain ⟨hlt, rfl⟩ := List.getElem?_eq_some_iff.mp hp
  obtain ⟨hlt', rfl⟩ := List.getElem?_eq_some_iff.mp hp'
  have hpair := List.pairwise_iff_getElem.mp h.apart
  rcases Nat.lt_trichotomy place place' with hl | he | hg
  · exact absurd ho (Nat.ne_of_lt (hpair place place' hlt hlt' hl))
  · exact he
  · exact absurd ho.symm (Nat.ne_of_lt (hpair place' place hlt' hlt hg))

/-- An outcome of an earlier activation that does not come too late is dropped. -/
theorem Counted.deliver_past (h : Counted course) {asked : Asked} (hm : asked ∈ course.asked)
    (ho : asked.ordinal ≠ course.begun) (hlate : course.begun < asked.ordinal + UInt64.size)
    (source : Source) : (course.deliver asked source).console = course.console := by
  obtain ⟨hr, hle⟩ := h.numbered asked hm
  rw [deliver_console, Console.deliver_stale]
  rw [hr, h.current, ne_eq, ← UInt64.toNat_inj, UInt64.toNat_ofNat', UInt64.toNat_ofNat']
  simp only [UInt64.size] at hlate
  omega

/-! ## The end of a schedule -/

/-- The outcome of the read at a place has been taken in. -/
def Shows (outcomes : Nat → Source) (course : Course) (place : Nat) : Prop :=
  ∃ asked, course.asked[place]? = some asked ∧ asked.ordinal = course.begun ∧
    (course.console.receive ((outcomes place).answer asked.request.endpoint)).console =
      course.console

theorem Counted.shows_deliver (h : Counted course) {place : Nat} {asked : Asked}
    (hp : course.asked[place]? = some asked) (ho : asked.ordinal = course.begun) :
    Shows outcomes (course.step outcomes (.deliver place)) place := by
  have hcurrent : asked.request.activation = course.console.activation := by
    rw [(h.numbered asked (List.mem_of_getElem? hp)).1, h.current, ho]
  rw [step_deliver_of_some hp]
  refine ⟨asked, hp, ho, ?_⟩
  rw [deliver_console, hcurrent, Console.deliver_current, Console.receive_receive]

theorem Counted.shows_step (h : Counted course) {place : Nat} (hs : Shows outcomes course place)
    {other : Nat} (hlate : ∀ asked, course.asked[other]? = some asked →
      course.begun < asked.ordinal + UInt64.size) :
    Shows outcomes (course.step outcomes (.deliver other)) place := by
  obtain ⟨asked, hp, ho, hc⟩ := hs
  cases hq : course.asked[other]? with
  | none =>
      rw [step_deliver_of_none hq]
      exact ⟨asked, hp, ho, hc⟩
  | some second =>
      by_cases hsecond : second.ordinal = course.begun
      · obtain rfl : place = other := h.place_unique hp hq (ho.trans hsecond.symm)
        exact h.shows_deliver hp ho
      · have hpast := h.deliver_past (List.mem_of_getElem? hq) hsecond (hlate second hq)
          (outcomes other)
        rw [step_deliver_of_some hq]
        refine ⟨asked, hp, ho, ?_⟩
        rw [hpast]
        exact hc

theorem Timely.of_append {early late : List Turn} (h : Timely outcomes (early ++ late)) :
    Timely outcomes early := by
  rintro first place rest rfl asked hp
  exact h first place (rest ++ late) (by simp) asked hp

/-- After the last intent the outcome of the last read, once taken in, stays. -/
theorem shows_of_intents_eq_nil {early late : List Turn} {place : Nat}
    (hs : Shows outcomes (after outcomes early) place) (hl : intents late = [])
    (timely : Timely outcomes (early ++ late)) :
    Shows outcomes (after outcomes (early ++ late)) place := by
  induction late using List.reverseRecOn with
  | nil => simpa using hs
  | append_singleton late turn ih =>
      simp only [intents, List.filterMap_append, List.append_eq_nil_iff] at hl
      rw [← List.append_assoc] at timely ⊢
      have hbefore := ih hl.1 timely.of_append
      rw [after_concat]
      cases turn with
      | ask intent => simp [Turn.intent?] at hl
      | deliver other =>
          exact (counted_after outcomes _).shows_step hbefore
            fun asked hq => timely _ other [] rfl asked hq

theorem intents_append_of_eq_nil {late : List Turn} (hl : intents late = [])
    (early : List Turn) : intents (early ++ late) = intents early := by
  simpa [intents] using hl

/-- At the end of a schedule on which the last read is answered, its outcome is shown. -/
theorem shows_of_answered {schedule : List Turn} (answered : Answered outcomes schedule)
    (timely : Timely outcomes schedule) {place : Nat} {asked : Asked}
    (hp : (after outcomes schedule).asked[place]? = some asked)
    (ho : asked.ordinal = (after outcomes schedule).begun) :
    Shows outcomes (after outcomes schedule) place := by
  obtain ⟨early, late, rfl, hl⟩ := answered place asked hp ho
  have hall : intents (.deliver place :: late) = [] := hl
  have halike := alike_of_intents (intents_append_of_eq_nil hall early) outcomes
  rw [halike.asked] at hp
  rw [halike.begun] at ho
  have hdelivered : Shows outcomes (after outcomes (early ++ [.deliver place])) place := by
    rw [after_concat]
    exact (counted_after outcomes early).shows_deliver hp ho
  have := shows_of_intents_eq_nil hdelivered hl (by simpa using timely)
  simpa using this

/-- Schedules with the same intents end with the same console, whenever the outcomes of their reads
are handed over, and whether those of superseded reads are or not. -/
theorem same_intents_end_alike {first second : List Turn} (same : intents first = intents second)
    (answered : Answered outcomes first) (answered' : Answered outcomes second)
    (timely : Timely outcomes first) (timely' : Timely outcomes second) :
    (after outcomes first).console = (after outcomes second).console := by
  obtain ⟨hbare, hbegun, hasked⟩ := alike_of_intents same outcomes
  have hcounted := counted_after outcomes first
  cases he : (after outcomes first).console.view.endpoint? with
  | none => exact Console.eq_of_bare_of_endpoint?_eq_none hbare he
  | some endpoint =>
      obtain ⟨asked, hm, ho⟩ := hcounted.read endpoint he
      obtain ⟨place, hp⟩ := List.getElem?_of_mem hm
      have hown : endpoint = asked.request.endpoint := by
        simpa [he] using hcounted.own asked hm ho
      obtain ⟨_, hq, _, hshown⟩ := shows_of_answered answered timely hp ho
      obtain ⟨_, hq', _, hshown'⟩ :=
        shows_of_answered answered' timely' (hasked ▸ hp) (hbegun ▸ ho)
      obtain rfl := Option.some.inj (hq.symm.trans hp)
      obtain rfl := Option.some.inj (hq'.symm.trans (hasked ▸ hp))
      exact Console.eq_of_bare_of_receive hbare he (hown ▸ Source.answer_fits _ _) hshown hshown'

theorem begun_le_length (outcomes : Nat → Source) (schedule : List Turn) :
    (after outcomes schedule).begun ≤ schedule.length := by
  induction schedule using List.reverseRecOn with
  | nil => exact Nat.le_refl 0
  | append_singleton schedule turn ih =>
      rw [after_concat, List.length_append, List.length_singleton]
      cases turn with
      | ask intent =>
          simp only [step, ask]
          split <;> omega
      | deliver place =>
          cases hp : (after outcomes schedule).asked[place]? with
          | none =>
              rw [step_deliver_of_none hp]
              exact Nat.le_succ_of_le ih
          | some asked =>
              rw [step_deliver_of_some hp]
              exact Nat.le_succ_of_le ih

theorem timely_of_length {schedule : List Turn} (h : schedule.length < UInt64.size) :
    Timely outcomes schedule := by
  rintro early place late rfl asked _
  have := begun_le_length outcomes early
  rw [List.length_append] at h
  omega

/-! ## Reloads of the overview -/

/-- The overview is asked for, and its read repeated so many times. -/
def reloads (count : Nat) : List Turn :=
  .ask (.navigate "/modules") :: List.replicate count (.ask .reload)

theorem after_reloads (outcomes : Nat → Source) (count : Nat) :
    after outcomes (reloads count) =
      { console := ⟨.undetermined, "/modules", .overview, .overview .loading,
          UInt64.ofNat (count + 1), ""⟩
        begun := count + 1
        asked := (List.range (count + 1)).map
          fun n => ⟨n + 1, ⟨UInt64.ofNat (n + 1), .list⟩⟩ } := by
  induction count with
  | zero =>
      simp [reloads, after, start, step, ask, Intent.action, Action.activates, Console.update,
        Console.navigate, Route.resolve_overview, Console.arrivalStatus, View.activate,
        Console.begin, View.endpoint?, View.loading, Effect.request?, Console.new]
  | succ count ih =>
      have hlast : reloads (count + 1) = reloads count ++ [.ask .reload] := by
        simp [reloads, List.replicate_succ']
      have hrange : List.range (count + 1 + 1) = List.range (count + 1) ++ [count + 1] :=
        List.range_succ
      rw [hlast, after_concat, ih, hrange]
      simp [step, ask, Intent.action, Action.activates, Console.update, Console.begin,
        View.endpoint?, View.loading, Effect.request?]

/-- The last reload has a read, and it is answered last of all. -/
theorem answered_of_reloads {count : Nat} {early late : List Turn}
    (he : intents early = intents (reloads count)) (hl : intents late = []) :
    Answered outcomes (early ++ .deliver count :: late) := by
  have hall : intents (.deliver count :: late) = [] := hl
  have halike := alike_of_intents ((intents_append_of_eq_nil hall early).trans he) outcomes
  intro place asked hp ho
  rw [halike.asked, after_reloads] at hp
  rw [halike.begun, after_reloads] at ho
  obtain ⟨_, rfl⟩ := List.getElem?_eq_some_iff.mp hp
  obtain rfl : place = count := by simpa using ho
  exact ⟨early, late, rfl, hl⟩

/-- The first read of the backend fails, and every other one finds no records. -/
def firstFails (place : Nat) : Source :=
  Catalogue.source { failure := if place = 0 then some (.network "reset") else none }

theorem reload_ends_alike :
    intents (reloads 1 ++ [.deliver 1, .deliver 0]) =
        intents ([.ask (.navigate "/modules"), .deliver 0, .ask .reload] ++ [.deliver 1]) ∧
      (after firstFails (reloads 1 ++ [.deliver 1, .deliver 0])).console =
        (after firstFails
          ([.ask (.navigate "/modules"), .deliver 0, .ask .reload] ++ [.deliver 1])).console :=
  ⟨rfl, same_intents_end_alike rfl (answered_of_reloads rfl rfl) (answered_of_reloads rfl rfl)
    (timely_of_length (by decide)) (timely_of_length (by decide))⟩

/-! ## When the numbers come round -/

theorem view_deliver {asked : Asked} (h : asked.request.activation = course.console.activation)
    (source : Source) : (course.deliver asked source).console.view =
      course.console.view.finish (source.answer asked.request.endpoint) := by
  rw [deliver_console, h, Console.deliver_current, Console.receive_view]

theorem view_deliver_last {count : Nat} (hc : count ≠ 0) :
    (after firstFails (reloads count ++ [.deliver count])).console.view =
      .overview (.loaded []) := by
  have hp : (after firstFails (reloads count)).asked[count]? =
      some ⟨count + 1, ⟨UInt64.ofNat (count + 1), .list⟩⟩ := by
    rw [after_reloads]
    simp
  have hn : UInt64.ofNat (count + 1) = (after firstFails (reloads count)).console.activation := by
    rw [after_reloads]
  rw [after_concat, step_deliver_of_some hp, view_deliver hn, after_reloads]
  simp [firstFails, hc, Catalogue.source, Catalogue.list, Source.answer, View.finish,
    Load.ofOutcome]

/-- The outcome of the first read is then taken for that of the last one. -/
theorem view_deliver_first {count : Nat} (hc : count ≠ 0) (hround : UInt64.ofNat count = 0) :
    (after firstFails (reloads count ++ [.deliver count] ++ [.deliver 0])).console.view =
      .overview (.failed (.network "reset")) := by
  have halike := alike_of_intents
    (@intents_append_of_eq_nil [.deliver count] rfl (reloads count)) firstFails
  have hp : (after firstFails (reloads count ++ [.deliver count])).asked[0]? =
      some ⟨1, ⟨1, .list⟩⟩ := by
    rw [halike.asked, after_reloads]
    simp
  have hn : 1 = (after firstFails (reloads count ++ [.deliver count])).console.activation := by
    rw [(counted_after _ _).current, halike.begun, after_reloads, UInt64.ofNat_add, hround]
    rfl
  rw [after_concat, step_deliver_of_some hp, view_deliver hn, view_deliver_last hc]
  simp [firstFails, Catalogue.source, Catalogue.list, Source.answer, View.finish,
    Load.ofOutcome]

/-- So outcomes must not come too late: after 2^64 reloads it matters whether the outcome of the
first read is handed over at last or not. -/
theorem not_end_alike_of_late : ¬ ∀ outcomes first second, intents first = intents second →
    Answered outcomes first → Answered outcomes second →
      (after outcomes first).console = (after outcomes second).console := by
  intro hall
  have hround : UInt64.ofNat UInt64.size = 0 := by decide
  have hc : UInt64.size ≠ 0 := by decide
  generalize UInt64.size = count at hround hc
  have he := hall firstFails (reloads count ++ [.deliver count])
    (reloads count ++ [.deliver count] ++ [.deliver 0]) (intents_append_of_eq_nil rfl _).symm
    (answered_of_reloads rfl rfl) (by simpa using answered_of_reloads rfl rfl)
  have hview := congrArg Console.view he
  rw [view_deliver_last hc, view_deliver_first hc hround] at hview
  cases hview

end Course

end HomeConsole
