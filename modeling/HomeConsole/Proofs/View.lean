import HomeConsole.View

/-!
# What a view keeps

A view names its read, and neither starting that read nor taking an answer in changes which read it
is. A read that was started is over as soon as an answer of its kind is taken in. The page and the
id are part of what stays.
-/

namespace HomeConsole

/-- The outcome that data came from, once there is one. -/
def Load.outcome? {α : Type} : Load α → Option (Outcome α)
  | .loaded data => some (.ok data)
  | .failed error => some (.error error)
  | _ => none

@[simp] theorem Load.outcome?_ofOutcome {α : Type} (outcome : Outcome α) :
    (Load.ofOutcome outcome).outcome? = some outcome := by
  cases outcome with
  | ok data => rfl
  | error error => rfl

@[simp] theorem Load.isLoading_ofOutcome {α : Type} (outcome : Outcome α) :
    (Load.ofOutcome outcome).isLoading = false := by
  cases outcome with
  | ok data => rfl
  | error error => rfl

namespace View

/-- The outcome that a view shows, once there is one. -/
def outcome? : View → Option Answer
  | overview records => records.outcome?.map .list
  | detail _ record => record.outcome?.map .one
  | _ => none

/-- The id of the record that a view is about, if it is about one. -/
def id? : View → Option String
  | detail id _ => some id
  | _ => none

/-- Whether a view has a read that was never started. -/
def isUnread : View → Bool
  | overview .notLoaded | detail _ .notLoaded => true
  | _ => false

/-- Whether an answer is of the kind that a read asks for. -/
def fits : Answer → Endpoint → Bool
  | .list _, .list | .one _, .one _ => true
  | _, _ => false

/-! ## Starting the read -/

@[simp] theorem endpoint?_loading (view : View) : view.loading.endpoint? = view.endpoint? := by
  cases view <;> rfl

@[simp] theorem page_loading (view : View) : view.loading.page = view.page := by
  cases view <;> rfl

@[simp] theorem id?_loading (view : View) : view.loading.id? = view.id? := by
  cases view <;> rfl

@[simp] theorem loading_loading (view : View) : view.loading.loading = view.loading := by
  cases view <;> rfl

theorem page_activate (found : Resolution) : (activate found).page = found.route.page := by
  unfold activate
  cases found.route.page <;> rfl

theorem loading_of_endpoint?_eq_none {view : View} (h : view.endpoint? = none) :
    view.loading = view := by
  cases view with
  | home => rfl
  | dashboard => rfl
  | overview records => cases h
  | detail id record => cases h

theorem endpoint?_activate_eq_none {found : Resolution} :
    (activate found).endpoint? = none ↔
      found.route.page = .home ∨ found.route.page = .dashboard := by
  unfold activate
  cases found.route.page <;> simp [endpoint?]

@[simp] theorem isLoading_loading (view : View) :
    view.loading.isLoading = view.endpoint?.isSome := by
  cases view <;> rfl

@[simp] theorem outcome?_loading (view : View) : view.loading.outcome? = none := by
  cases view <;> rfl

@[simp] theorem isUnread_loading (view : View) : view.loading.isUnread = false := by
  cases view <;> rfl

/-! ## Taking an answer in -/

@[simp] theorem endpoint?_finish (view : View) (answer : Answer) :
    (view.finish answer).endpoint? = view.endpoint? := by
  cases view <;> cases answer <;> rfl

@[simp] theorem loading_finish (view : View) (answer : Answer) :
    (view.finish answer).loading = view.loading := by
  cases view <;> cases answer <;> rfl

theorem isUnread_finish {view : View} (h : view.isUnread = false) (answer : Answer) :
    (view.finish answer).isUnread = false := by
  cases view with
  | home => rfl
  | dashboard => rfl
  | overview records =>
      cases answer with
      | list outcome => cases outcome <;> rfl
      | one outcome => exact h
  | detail id record =>
      cases answer with
      | list outcome => exact h
      | one outcome => cases outcome <;> rfl

/-- A view that loads after an answer was taken in was loading before. -/
theorem isLoading_of_finish {view : View} {answer : Answer}
    (h : (view.finish answer).isLoading = true) : view.isLoading = true := by
  cases view with
  | home => exact h
  | dashboard => exact h
  | overview records =>
      cases answer with
      | list outcome => simp [finish, isLoading] at h
      | one outcome => exact h
  | detail id record =>
      cases answer with
      | list outcome => exact h
      | one outcome => simp [finish, isLoading] at h

theorem finish_of_fits {view : View} {endpoint : Endpoint} {answer : Answer}
    (h : view.endpoint? = some endpoint) (hf : fits answer endpoint = true) :
    (view.finish answer).outcome? = some answer ∧ (view.finish answer).isLoading = false := by
  cases view with
  | home => simp [endpoint?] at h
  | dashboard => simp [endpoint?] at h
  | overview records =>
      simp only [endpoint?, Option.some.injEq] at h
      subst h
      cases answer with
      | list outcome => simp [finish, outcome?, isLoading]
      | one outcome => simp [fits] at hf
  | detail id record =>
      simp only [endpoint?, Option.some.injEq] at h
      subst h
      cases answer with
      | list outcome => simp [fits] at hf
      | one outcome => simp [finish, outcome?, isLoading]

/-! ## The result -/

theorem result_eq_error {view : View} {error : ReadError} :
    view.result = .error error ↔ view.error? = some error := by
  unfold result
  cases view.error? <;> simp

theorem result_eq_ok {view : View} {data : Json} :
    view.result = .ok data ↔ view.error? = none ∧ data = view.data := by
  unfold result
  cases view.error? <;> simp [eq_comm]

end View

/-- A source answers a read with an answer of its kind. -/
theorem Source.answer_fits (source : Source) (endpoint : Endpoint) :
    View.fits (source.answer endpoint) endpoint = true := by
  cases endpoint <;> rfl

namespace View

/-! ## Loading from a source -/

variable {view : View} {endpoint : Endpoint}

theorem load_of_endpoint? (h : view.endpoint? = some endpoint) (source : Source) :
    view.load source = view.loading.finish (source.answer endpoint) := by
  simp [load, loadWith, h]

/-- A view that is loaded shows what its source answers. -/
theorem outcome?_load (h : view.endpoint? = some endpoint) (source : Source) :
    (view.load source).outcome? = some (source.answer endpoint) := by
  rw [load_of_endpoint? h]
  exact (finish_of_fits ((endpoint?_loading view).trans h) (source.answer_fits endpoint)).1

theorem finish_answer (h : view.endpoint? = some endpoint) (source : Source) :
    view.finish (source.answer endpoint) = view.load source := by
  rw [load_of_endpoint? h]
  cases view with
  | home => cases h
  | dashboard => cases h
  | overview records =>
      cases h
      rfl
  | detail id record =>
      cases h
      rfl

end View

end HomeConsole
