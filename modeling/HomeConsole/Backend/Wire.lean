import HomeConsole.Backend.Http

/-!
# Requests and answers as bytes

A request is a line, a few fields and an empty line. An answer is a status line, fields, an empty
line and a body; the fields tell where the body ends: behind the last of several pieces, after a
number of bytes, or with the connection.
-/

namespace HomeConsole.Wire

/-! ## Requests -/

/-- The digits for six bits each. -/
def digits64 : List Char :=
  "ABCDEFGHIJKLMNOPQRSTUVWXYZabcdefghijklmnopqrstuvwxyz0123456789+/".toList

/-- The first `count` of the four digits for three bytes. -/
def digits (count n : Nat) : List Char :=
  [n / 262144, n / 4096, n / 64, n].take count |>.map fun n => digits64.getD (n % 64) '='

/-- Bytes as digits for six bits each, filled up to groups of four. -/
def base64 : List UInt8 → List Char
  | a :: b :: c :: rest => digits 4 (a.toNat * 65536 + b.toNat * 256 + c.toNat) ++ base64 rest
  | [a, b] => digits 3 (a.toNat * 65536 + b.toNat * 256) ++ ['=']
  | [a] => digits 2 (a.toNat * 65536) ++ ['=', '=']
  | [] => []

/-- The field that shows a name and a password, if a URL has them. -/
def credentials (url : Url) : List String :=
  match url.authority with
  | none => []
  | some authority =>
    if authority.user.isEmpty || ! Url.isReadableUser authority.user then []
    else
      let name := Percent.decode (Url.nameText authority.user)
      let password := (Percent.decode? (Url.passwordText authority.user)).getD ""
      ["authorization: Basic " ++
        String.ofList (base64 (Utf8.encode (name ++ ":" ++ password).toList))]

/-- The field that names the host. -/
def hostField (url : Url) : List String :=
  (url.withoutUser.authority.map fun authority => "host: " ++ authority.text).toList

/-- The bytes of a request about a URL. The connection is not used again. -/
def request (url : Url) : List UInt8 :=
  let fields := credentials url ++ ["accept: */*"] ++ hostField url ++ ["connection: close"]
  Utf8.encode (String.join ((url.requestLine :: fields ++ [""]).map (· ++ "\r\n"))).toList

/-! ## Answers -/

/-- The lines up to the first empty one, and what is behind it; `line` and `lines` hold, backwards,
what was read before. -/
def head? (line : List UInt8) (lines : List (List UInt8)) :
    List UInt8 → Option (List (List UInt8) × List UInt8)
  | [] => none
  | b :: rest =>
    if b = 0x0A then
      let line := match line with
        | 0x0D :: more => more
        | line => line
      if line.isEmpty then some (lines.reverse, rest) else head? [] (line.reverse :: lines) rest
    else head? (b :: line) lines rest

theorem length_of_head? {line : List UInt8} {lines found : List (List UInt8)}
    {bytes rest : List UInt8} (h : head? line lines bytes = some (found, rest)) :
    rest.length < bytes.length := by
  induction bytes generalizing line lines with
  | nil => simp [head?] at h
  | cons b more ih =>
      have hmore {line : List UInt8} {lines : List (List UInt8)}
          (hm : head? line lines more = some (found, rest)) : rest.length < (b :: more).length :=
        Nat.lt_succ_of_lt (ih hm)
      unfold head? at h
      split at h
      · extract_lets line at h
        split at h
        · simp only [Option.some.injEq, Prod.mk.injEq] at h
          simp [h.2]
        · exact hmore h
      · exact hmore h

/-- Bytes as a text with one character for each. -/
def plainText (bytes : List UInt8) : String :=
  String.ofList (trim (bytes.map fun b => Char.ofNat b.toNat))

/-- The status that a status line tells. -/
def status? (line : List UInt8) : Option UInt16 :=
  match splitWhere (· == ' ') (line.map fun b => Char.ofNat b.toNat) with
  | protocol :: code :: _ =>
    if "HTTP/1.".toList.isPrefixOf protocol ∧ code.length = 3 ∧ code.all Char.isDigit then
      some (UInt16.ofNat (code.foldl (fun n c => 10 * n + (c.toNat - '0'.toNat)) 0))
    else none
  | _ => none

/-- The value of the first field with a name, which is given in lower case. -/
def field? (name : String) (lines : List (List UInt8)) : Option String :=
  lines.findSome? fun line =>
    let found := plainText (line.takeWhile (· != 0x3A))
    if String.ofList (found.toList.map Char.toLower) = name then
      some (plainText ((line.dropWhile (· != 0x3A)).drop 1))
    else none

/-- Where a body in pieces is being read. -/
inductive Piece where
  /-- In the line with the size of a piece; behind its digits only a comment follows. -/
  | size (n : Option Nat) (comment : Bool)
  /-- In a piece, with so many bytes to come. -/
  | inside (left : Nat)
  /-- Behind a piece, before the end of its line. -/
  | behind
  | finished
  | broken
deriving DecidableEq

/-- Takes in one byte of a body in pieces; the body is held backwards. -/
def Piece.step (state : Piece × List UInt8) (b : UInt8) : Piece × List UInt8 :=
  let (piece, body) := state
  match piece with
  | .size n comment =>
    if b = 0x0A then
      match n with
      | none => (.broken, body)
      | some 0 => (.finished, body)
      | some n => (.inside n, body)
    else
      match Percent.hexValue? b, comment with
      | some digit, false => (.size (some (16 * n.getD 0 + digit)) false, body)
      | _, _ => (.size n true, body)
  | .inside left => (if left ≤ 1 then .behind else .inside (left - 1), b :: body)
  | .behind =>
    if b = 0x0A then (.size none false, body)
    else if b = 0x0D then (.behind, body)
    else (.broken, body)
  | piece => (piece, body)

/-- The body in pieces, and whether its end has been seen. -/
def pieces (bytes : List UInt8) : List UInt8 × Bool :=
  let (piece, body) := bytes.foldl Piece.step (.size none false, [])
  (body.reverse, piece = .finished)

/-- A body as its fields tell it, and whether all of it is there. -/
def body (fields : List (List UInt8)) (bytes : List UInt8) : List UInt8 × Bool :=
  if ((field? "transfer-encoding" fields).map fun v => v.toLower.endsWith "chunked") = some true then
    pieces bytes
  else
    match (field? "content-length" fields).bind String.toNat? with
    | some n => (bytes.take n, n ≤ bytes.length)
    | none => (bytes, true)

/-- What comes back, from all the bytes that did. Interim answers are passed over. -/
def exchange (bytes : List UInt8) : Exchange :=
  match h : head? [] [] bytes with
  | some (first :: fields, rest) =>
    match status? first with
    | some status =>
      if Exchange.isInterim status then
        have := length_of_head? h
        exchange rest
      else
        let (body, complete) := body fields rest
        .reply status (field? "content-type" fields) body complete
    | none => .silence
  | _ => .silence
termination_by bytes.length

end HomeConsole.Wire
