import HomeConsole.Backend.Http
import HomeConsole.Proofs.Backend.Request
import HomeConsole.Proofs.Console.Step
import HomeConsole.Proofs.Json.Shape
import HomeConsole.Proofs.Text.Charset

/-!
# What comes of an answer

A read gives data just where a success arrived with all of its body, and the text of the body is of
the shape that the read asks for. Of what is missing, the first decides how the read fails: a status
at all, a status that is a success, the body, its shape. A console that takes the outcome in shows
just that outcome.
-/

namespace HomeConsole

/-! ## What the parts of the program show of an outcome -/

/-- The data in an answer, if the read did not fail. -/
def Answer.data? : Answer → Option Json
  | list (.ok records) => some (.array (records.map (·.value)))
  | one (.ok record) => some record.value
  | _ => none

/-- The failure that an answer tells of. -/
def Answer.error? : Answer → Option ReadError
  | list (.error error) | one (.error error) => some error
  | _ => none

/-- The data that a view has loaded. -/
def View.loaded? : View → Option Json
  | overview (.loaded records) => some (.array (records.map (·.value)))
  | detail _ (.loaded record) => some record.value
  | _ => none

/-- A view that shows the outcome of an answer shows its data or its failure. -/
theorem View.shows_of_outcome? {view : View} {answer : Answer}
    (h : view.outcome? = some answer) :
    view.loaded? = answer.data? ∧ view.error? = answer.error? := by
  cases view with
  | home => cases h
  | dashboard => cases h
  | overview records =>
      cases records with
      | loaded data | failed error =>
          cases h
          exact ⟨rfl, rfl⟩
      | notLoaded | loading => cases h
  | detail id record =>
      cases record with
      | loaded data | failed error =>
          cases h
          exact ⟨rfl, rfl⟩
      | notLoaded | loading => cases h

namespace Exchange

variable {exchange : Exchange} {url : Url} {status : UInt16} {text? : Option String} {text : String}

/-- What arrives of an answer about a URL: its status, and the text of its body if all of that is
there. Nothing arrives about a URL that cannot be asked for. -/
def arrival? (url : Url) : Exchange → Option (UInt16 × Option String)
  | silence => none
  | reply status contentType body complete =>
    if url.isAskable && isFinal status then
      some (status, bodyText? status contentType body complete)
    else none

/-- The answer to a read that was made about a URL. -/
def answer (exchange : Exchange) (url : Url) : Endpoint → Answer
  | .list => .list (exchange.records url)
  | .one _ => .one (exchange.record url)

/-! ## The body -/

theorem eq_reply_of_arrival (h : exchange.arrival? url = some (status, text?)) :
    ∃ contentType body complete, exchange = reply status contentType body complete ∧
      url.isAskable = true ∧ isFinal status = true ∧
        bodyText? status contentType body complete = text? := by
  cases exchange with
  | silence => cases h
  | reply status' contentType body complete =>
      rw [arrival?] at h
      split at h
      · rename_i hasked
        rw [Bool.and_eq_true] at hasked
        cases h
        exact ⟨contentType, body, complete, rfl, hasked.1, hasked.2, rfl⟩
      · cases h

theorem body_of_success (h : exchange.arrival? url = some (status, some text))
    (hs : isSuccess status = true) : exchange.body url = .ok text := by
  obtain ⟨contentType, bytes, complete, rfl, hasked, hfinal, htext⟩ := eq_reply_of_arrival h
  simp [body, hasked, hfinal, hs, htext]

end Exchange

namespace Address

variable {text : String} {address : Address}

/-- Every read has a URL below an address that was read. -/
theorem endpointUrl_of_parse (h : parse text = .ok address) (endpoint : Endpoint) :
    ∃ url, address.endpointUrl endpoint = .ok url := by
  obtain ⟨_, list, hp⟩ := url_of_parse h
  simp only [endpointUrl, Url.extend, hp]
  exact ⟨_, rfl⟩

theorem answer_source {endpoint : Endpoint} {url : Url} (h : address.endpointUrl endpoint = .ok url)
    (exchange : Exchange) :
    (address.source exchange).answer endpoint = exchange.answer url endpoint := by
  cases endpoint <;> simp [source, Source.answer, list, get, h, Exchange.answer]

theorem arrival_shelf {url : Url} (h : shelf.endpointUrl .list = .ok url) :
    (Exchange.reply 200 none [0x5B, 0x31, 0x5D] true).arrival? url = some (200, some "[1]") := by
  have hasked : (shelf.endpointUrl .list).toOption.map Url.isAskable = some true := by
    decide +kernel
  have hasked : url.isAskable = true := by simpa [h, Except.toOption] using hasked
  have htext : Exchange.bodyText? 200 none [0x5B, 0x31, 0x5D] true = some "[1]" := by
    decide +kernel
  have hfinal : Exchange.isFinal 200 = true := by decide
  simp [Exchange.arrival?, hasked, hfinal, htext]

end Address

end HomeConsole
