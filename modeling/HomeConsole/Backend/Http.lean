import HomeConsole.Backend.Address
import HomeConsole.Text.Charset

/-!
# Reading over HTTP

A URL that can be asked for makes one request. What comes back for it decides the outcome of the
read: first whether anything did, then the status, then the body.
-/

namespace HomeConsole

namespace Url

/-- How many bytes the URL of a request has at most. -/
def maxLength : Nat := 65534

/-- A character that a name of a host may hold and a request may not. -/
def isUnsendable (c : Char) : Bool := ['"', '\x60', '\x7b', '\x7d'].contains c

/-- Whether a request can be made about a URL: it names a host and a scheme of the web, and is not
too long. -/
def isAskable (url : Url) : Bool :=
  (url.scheme == "http" || url.scheme == "https") && url.withoutUser.text.utf8ByteSize ≤ maxLength &&
    match url.authority with
    | some authority => ! authority.host.text.toList.any isUnsendable
    | none => false

/-- The line that asks for a URL. -/
def requestLine (url : Url) : String := "GET " ++ url.target ++ " HTTP/1.1"

end Url

/-- What comes back for a request. -/
inductive Exchange where
  /-- Nothing, or not in time, or the connection was closed before the status. -/
  | silence
  /-- A status, the last of all that came, and a body, perhaps one that was cut short. -/
  | reply (status : UInt16) (contentType : Option String) (body : List UInt8) (complete : Bool)
deriving Repr, DecidableEq, Inhabited

namespace Exchange

/-- Whether a status is a success. -/
def isSuccess (status : UInt16) : Bool := 200 ≤ status.toNat && status.toNat < 300

/-- Whether an answer with this status only comes before the answer proper. -/
def isInterim (status : UInt16) : Bool :=
  100 ≤ status.toNat && status.toNat < 200 && status != 101

/-- Whether a status can be that of the answer proper. -/
def isFinal (status : UInt16) : Bool :=
  100 ≤ status.toNat && status.toNat < 1000 && ! isInterim status

/-- Whether an answer with this status has no body, whatever is sent. -/
def isBodiless (status : UInt16) : Bool := [101, 204, 304].contains status

/-- The text of a body, if all of it arrived. -/
def bodyText? (status : UInt16) (contentType : Option String) (body : List UInt8)
    (complete : Bool) : Option String :=
  if isBodiless status then some ""
  else if complete then some (Charset.decode contentType body)
  else none

/-- The text in the place of a body that was cut short. -/
def unknownError : String := "unknown error"

/-- Why nothing came back from a URL. -/
def silenceReason (url : Url) : String :=
  "error sending request for url (" ++ url.withoutUser.text ++ ")"

/-- Why no request was made about a URL. -/
def unaskableReason (url : Url) : String :=
  "builder error for url (" ++ url.withoutUser.text ++ ")"

/-- Why a body is of no use. -/
def cutReason : String := "error decoding response body"

/-- The body of an answer that is a success. -/
def body (exchange : Exchange) (url : Url) : Outcome String :=
  if url.isAskable then
    match exchange with
    | silence => .error (.network (silenceReason url))
    | reply status contentType bytes complete =>
      if isFinal status then
        let text? := bodyText? status contentType bytes complete
        if isSuccess status then
          match text? with
          | some text => .ok text
          | none => .error (.network cutReason)
        else .error (.api status (text?.getD unknownError))
      else .error (.network (silenceReason url))
  else .error (.network (unaskableReason url))

/-- What an answer gives for the list read. -/
def records (exchange : Exchange) (url : Url) : Outcome (List Record) :=
  match exchange.body url with
  | .error error => .error error
  | .ok text => (Record.parseList text).mapError .parse

/-- What an answer gives for the read of one record. -/
def record (exchange : Exchange) (url : Url) : Outcome Record :=
  match exchange.body url with
  | .error error => .error error
  | .ok text => (Record.parse text).mapError .parse

end Exchange

namespace Address

/-- The list of records, when this comes back for the request. -/
def list (address : Address) (exchange : Exchange) : Outcome (List Record) :=
  match address.endpointUrl .list with
  | .error error => .error error
  | .ok url => exchange.records url

/-- The record with an id, when this comes back for the request. -/
def get (address : Address) (exchange : Exchange) (id : String) : Outcome Record :=
  match address.endpointUrl (.one id) with
  | .error error => .error error
  | .ok url => exchange.record url

/-- The backend at an address as a source, when every request brings the same back. -/
def source (address : Address) (exchange : Exchange) : Source :=
  ⟨address.list exchange, address.get exchange⟩

/-- The line that a read sends, if it can be asked for. -/
def endpointLine (address : Address) (endpoint : Endpoint) : Option String :=
  ((address.endpointUrl endpoint).toOption.filter Url.isAskable).map Url.requestLine

end Address

end HomeConsole
