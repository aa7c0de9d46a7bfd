import HomeConsole.Proofs.Backend.Arrival
import HomeConsole.Proofs.Json.Nesting

/-!
# What is shown of a body

The text of a success is read as JSON and shown as it is: a list item by item in the overview, any
value on the page of one record. What is no list fails in the overview, what is no JSON fails on
either page; numbers, repeated names and the limit on nesting count alike for both.
-/

namespace HomeConsole

/-! ## Reading a text -/

/-- The answer that the text of a success makes to a read. -/
def Endpoint.answerFrom (text : String) : Endpoint → Answer
  | list => .list ((Record.parseList text).mapError .parse)
  | one _ => .one ((Record.parse text).mapError .parse)

namespace Record

variable {text fault : String}

theorem parseList_of_array {items : List Json} (h : Json.parse text = .ok (.array items)) :
    parseList text = .ok (items.map mk) := by
  rw [parseList_eq_ok, values_map_mk]
  exact h

theorem parseList_of_value {value : Json} (h : Json.parse text = .ok value)
    (hlist : ∀ items, value ≠ .array items) : ∃ reason, parseList text = .error reason := by
  cases hparse : parseList text with
  | error reason => exact ⟨reason, rfl⟩
  | ok records =>
      have := h.symm.trans (parseList_eq_ok.mp hparse)
      exact absurd (Except.ok.inj this) (hlist _)

theorem parse_of_fault (h : Json.parse text = .error fault) : parse text = .error fault := by
  rw [parse, h]
  rfl

/-- What is no JSON is no list of records; the fault is the same if a list was opened. -/
theorem parseList_of_fault (h : Json.parse text = .error fault) :
    ∃ reason, parseList text = .error reason ∧
      ((∃ more, Json.skipSpace text.toList = '[' :: more) → reason = fault) := by
  cases hlist : Json.parseList text with
  | error reason =>
      refine ⟨reason, by rw [parseList, hlist]; rfl, ?_⟩
      rintro ⟨more, hopen⟩
      rw [Json.parse_of_open hopen, hlist] at h
      exact Except.error.inj h
  | ok items =>
      rw [Json.parseList_eq_ok.mp hlist] at h
      cases h

end Record

namespace View

variable {view : View}

theorem data_of_loaded? {data : Json} (h : view.loaded? = some data) :
    view.error? = none ∧ view.data = data := by
  cases view with
  | home => cases h
  | dashboard => cases h
  | overview records =>
      cases records <;> cases h
      exact ⟨rfl, rfl⟩
  | detail id record =>
      cases record <;> cases h
      exact ⟨rfl, rfl⟩

/-- A view that shows the outcome of an answer with data has just these data. -/
theorem data_of_outcome? {answer : Answer} {data : Json} (h : view.outcome? = some answer)
    (hdata : answer.data? = some data) : view.error? = none ∧ view.data = data :=
  data_of_loaded? ((shows_of_outcome? h).1.trans hdata)

end View

/-! ## From the body to the view -/

namespace Address

variable {address : Address} {exchange : Exchange} {endpoint : Endpoint} {text : String}

/-- What comes back for a read is a success with all of its body, and this is its text. -/
def Delivers (address : Address) (exchange : Exchange) (endpoint : Endpoint) (text : String) :
    Prop :=
  ∃ url status, address.endpointUrl endpoint = .ok url ∧
    exchange.arrival? url = some (status, some text) ∧ Exchange.isSuccess status = true

theorem answer_of_delivers (h : address.Delivers exchange endpoint text) :
    (address.source exchange).answer endpoint = endpoint.answerFrom text := by
  obtain ⟨url, status, hurl, harrival, hs⟩ := h
  rw [answer_source hurl]
  have hbody := Exchange.body_of_success harrival hs
  cases endpoint with
  | list => simp only [Exchange.answer, Exchange.records, hbody, Endpoint.answerFrom]
  | one id => simp only [Exchange.answer, Exchange.record, hbody, Endpoint.answerFrom]

/-- The JSON value in the body of a success is shown as it is. The overview shows the items of a
list, each as it is, and fails for any other value; the page of a record shows every value. Both
fail for a text that is no JSON, which includes all nesting beyond the limit, and where the text
opens a list they fail alike. A console that takes the answer in shows the same. -/
theorem sent_data_are_shown {console : Console} (hsent : address.Delivers exchange endpoint text)
    (hview : console.view.endpoint? = some endpoint) :
    let source := address.source exchange
    let answer := source.answer endpoint
    let shown := console.view.load source
    (∀ value, Json.parse text = .ok value → value.nesting < Json.maxDepth ∧
      match endpoint, value with
      | .list, .array items => answer = .list (.ok (items.map Record.mk)) ∧
          shown.error? = none ∧ shown.data = .array items
      | .list, _ => ∃ reason, answer = .list (.error (.parse reason)) ∧
          shown.error? = some (.parse reason)
      | .one _, value => answer = .one (.ok ⟨value⟩) ∧
          shown.error? = none ∧ shown.data = value) ∧
      (∀ fault, Json.parse text = .error fault → ∃ reason,
        answer.error? = some (.parse reason) ∧ shown.error? = some (.parse reason) ∧
          ((endpoint = .list → ∃ more, Json.skipSpace text.toList = '[' :: more) →
            reason = fault)) ∧
      (console.update (Request.perform ⟨console.activation, endpoint⟩ source)).console.view =
        shown := by
  intro source answer shown
  have hanswer : answer = endpoint.answerFrom text := answer_of_delivers hsent
  have houtcome : shown.outcome? = some answer := View.outcome?_load hview source
  have herror : shown.error? = answer.error? := (View.shows_of_outcome? houtcome).2
  refine ⟨?_, ?_, ?_⟩
  · intro value hvalue
    refine ⟨Json.nesting_lt_of_parse hvalue, ?_⟩
    cases endpoint with
    | list =>
        by_cases hlist : ∃ items, value = .array items
        · obtain ⟨items, rfl⟩ := hlist
          have hok : answer = .list (.ok (items.map Record.mk)) := by
            rw [hanswer, Endpoint.answerFrom, Record.parseList_of_array hvalue]
            rfl
          have hdata : answer.data? = some (.array items) := by
            rw [hok, Answer.data?, Record.values_map_mk]
          exact ⟨hok, View.data_of_outcome? houtcome hdata⟩
        · obtain ⟨reason, hreason⟩ :=
            Record.parseList_of_value hvalue fun items h => hlist ⟨items, h⟩
          have hfail : answer = .list (.error (.parse reason)) := by
            rw [hanswer, Endpoint.answerFrom, hreason]
            rfl
          have hrefused := And.intro hfail (herror.trans (congrArg Answer.error? hfail))
          cases value with
          | array items => exact absurd ⟨items, rfl⟩ hlist
          | _ => exact ⟨reason, hrefused⟩
    | one id =>
        have hok : answer = .one (.ok ⟨value⟩) := by
          rw [hanswer, Endpoint.answerFrom, Record.parse, hvalue]
          rfl
        exact ⟨hok, View.data_of_outcome? houtcome (congrArg Answer.data? hok)⟩
  · intro fault hfault
    rw [herror, hanswer]
    cases endpoint with
    | list =>
        obtain ⟨reason, hreason, hsame⟩ := Record.parseList_of_fault hfault
        rw [Endpoint.answerFrom, hreason]
        exact ⟨reason, rfl, rfl, fun hopen => hsame (hopen rfl)⟩
    | one id =>
        rw [Endpoint.answerFrom, Record.parse_of_fault hfault]
        exact ⟨fault, rfl, rfl, fun _ => rfl⟩
  · rw [Request.perform_eq, Console.update_toAction, Console.deliver_current, Console.receive_view]
    exact View.finish_answer hview source

/-- A console on the overview shows a list of one number as just that. -/
theorem shelf_shows :
    shelf.Delivers (.reply 200 none [0x5B, 0x31, 0x5D] true) .list "[1]" ∧
      (Console.new.takeAll [.navigate "/modules"]).view.endpoint? = some .list ∧
      ((Console.new.takeAll [.navigate "/modules"]).view.load
          (shelf.source (.reply 200 none [0x5B, 0x31, 0x5D] true))).data =
        .array [.number (.integer 1)] := by
  obtain ⟨url, hurl⟩ := endpointUrl_of_parse parse_shelf .list
  have hsent : shelf.Delivers (.reply 200 none [0x5B, 0x31, 0x5D] true) .list "[1]" :=
    ⟨url, 200, hurl, arrival_shelf hurl, rfl⟩
  have hview : (Console.new.takeAll [.navigate "/modules"]).view.endpoint? = some .list := by
    decide +kernel
  have hshown := (sent_data_are_shown hsent hview).1 (.array [.number (.integer 1)]) rfl
  exact ⟨hsent, hview, hshown.2.2.2⟩

end Address

end HomeConsole
