import HomeConsole.Text.Percent

/-!
# Addresses

A URL in its parts, each of them written with the escapes that its place asks for, so that the text
of a URL is its parts one after another.
-/

namespace HomeConsole

/-- Where a URL points to. -/
inductive Host where
  | name (text : String)
  /-- An address of 32 bits. -/
  | v4 (address : Nat)
  /-- An address of eight pieces of 16 bits. -/
  | v6 (pieces : List Nat)
deriving Repr, DecidableEq

namespace Host

/-- The four bytes of an address with points between them. -/
def v4Text (address : Nat) : String :=
  ".".intercalate <| [address / Nat.pow 2 24, address / Nat.pow 2 16 % 256, address / 256 % 256,
    address % 256].map toString

/-- How many zeros a list begins with. -/
def zeroRun (pieces : List Nat) : Nat := (pieces.takeWhile (· == 0)).length

/-- The start and the length of the first longest run of zeros, counted from `start`. -/
def longestRun (start : Nat) (best : Nat × Nat) : List Nat → Nat × Nat
  | [] => best
  | piece :: pieces =>
    let run := zeroRun (piece :: pieces)
    longestRun (start + 1) (if best.2 < run then (start, run) else best) pieces

/-- Pieces in hexadecimal with colons between them. -/
def pieceText (pieces : List Nat) : String :=
  ":".intercalate (pieces.map fun n => String.ofList (Nat.toDigits 16 n))

/-- The pieces of an address; the first longest run of at least two zeros is left out. -/
def v6Text (pieces : List Nat) : String :=
  let (start, count) := longestRun 0 (0, 1) pieces
  if count < 2 then pieceText pieces
  else pieceText (pieces.take start) ++ "::" ++ pieceText (pieces.drop (start + count))

/-- A host as written in a URL. -/
def text : Host → String
  | name text => text
  | v4 address => v4Text address
  | v6 pieces => "[" ++ v6Text pieces ++ "]"

end Host

/-- The part of a URL between the two slashes and the path. -/
structure Authority where
  /-- The name and the password, escaped, or nothing. -/
  user : String
  host : Host
  /-- A port other than the usual one of the scheme. -/
  port : Option Nat
deriving Repr, DecidableEq

/-- An authority as written in a URL. -/
def Authority.text (authority : Authority) : String :=
  (if authority.user.isEmpty then "" else authority.user ++ "@") ++ authority.host.text ++
    ((authority.port.map fun port => ":" ++ toString port).getD "")

/-- The path of a URL. -/
inductive UrlPath where
  /-- Escaped segments, each behind a slash. -/
  | segments (list : List String)
  /-- A text that is no path and cannot carry one. -/
  | plain (text : String)
deriving Repr, DecidableEq

namespace UrlPath

/-- A path as written in a URL. -/
def text : UrlPath → String
  | segments list => String.join (list.map ("/" ++ ·))
  | plain text => text

end UrlPath

/-- A URL. -/
structure Url where
  scheme : String
  authority : Option Authority
  path : UrlPath
  query : Option String
  fragment : Option String
deriving Repr, DecidableEq

namespace Url

/-- The schemes with a port of their own, whose paths are never empty. -/
def schemePort? : String → Option Nat
  | "http" | "ws" => some 80
  | "https" | "wss" => some 443
  | "ftp" => some 21
  | _ => none

/-- Whether a scheme is one for files. -/
def isFile (scheme : String) : Bool := scheme == "file"

/-- Whether a scheme takes backslashes for slashes. -/
def isSpecial (scheme : String) : Bool := (schemePort? scheme).isSome || isFile scheme

/-- What stands between the scheme and the path. Where there is no authority, a path that begins
with an empty segment is kept from looking like one. -/
def front (url : Url) : String :=
  match url.authority, url.path with
  | some authority, _ => "//" ++ authority.text
  | none, .segments ("" :: _ :: _) => "/."
  | none, _ => ""

/-- The path and the query: what a request asks for. -/
def target (url : Url) : String :=
  url.path.text ++ ((url.query.map ("?" ++ ·)).getD "")

/-- A URL as written. -/
def text (url : Url) : String :=
  url.scheme ++ ":" ++ url.front ++ url.target ++ ((url.fragment.map ("#" ++ ·)).getD "")

/-! ## Names and passwords -/

/-- The name in front of a password. -/
def nameText (user : String) : String := String.ofList (user.toList.takeWhile (· != ':'))

/-- The password behind a name. -/
def passwordText (user : String) : String :=
  String.ofList ((user.toList.dropWhile (· != ':')).drop 1)

/-- Whether a name and a password can be read behind their escapes. A name that is there is enough. -/
def isReadableUser (user : String) : Bool :=
  (Percent.decode? (nameText user)).isSome &&
    (! (nameText user).isEmpty || (Percent.decode? (passwordText user)).isSome)

/-- The URL that a request is about: a name and a password that can be read are no part of it. -/
def withoutUser (url : Url) : Url :=
  match url.authority with
  | some authority =>
    if isReadableUser authority.user then
      { url with authority := some { authority with user := "" } }
    else url
  | none => url

/-! ## Escapes -/

/-- A byte that is escaped everywhere in a URL. -/
def isControl (b : UInt8) : Bool := b.toNat < 0x20 || 0x7F ≤ b.toNat

/-- Bytes that stay in a fragment. -/
def keptInFragment (b : UInt8) : Bool :=
  ! isControl b && ! [' ', '"', '<', '>', '\x60'].contains (Char.ofNat b.toNat)

/-- Bytes that stay in a path. -/
def keptInPath (b : UInt8) : Bool :=
  keptInFragment b && ! ['#', '?', '\x7b', '\x7d'].contains (Char.ofNat b.toNat)

/-- Bytes that stay in one segment of a path. -/
def keptInSegment (special : Bool) (b : UInt8) : Bool :=
  keptInPath b && ! ['/', '%'].contains (Char.ofNat b.toNat) &&
    ! (special && b == 0x5C)

/-- Bytes that stay in a name or a password. -/
def keptInUser (b : UInt8) : Bool :=
  keptInPath b &&
    ! ['/', ':', ';', '=', '@', '[', '\\', ']', '^', '|'].contains (Char.ofNat b.toNat)

/-- Bytes that stay in a query. -/
def keptInQuery (special : Bool) (b : UInt8) : Bool :=
  ! isControl b && ! [' ', '"', '#', '<', '>'].contains (Char.ofNat b.toNat) &&
    ! (special && b == 0x27)

/-! ## Segments -/

/-- A segment that stands for its own place. -/
def isSingleDot (segment : String) : Bool := [".", "%2e", "%2E"].contains segment

/-- A segment that stands for the place above. -/
def isDoubleDot (segment : String) : Bool :=
  ["..", "%2e%2e", "%2e%2E", "%2E%2e", "%2E%2E", "%2e.", "%2E.", ".%2e", ".%2E"].contains segment

/-- A letter and a colon or a bar: what a path of a file may begin with on some systems. -/
def isDrive : List Char → Bool
  | [letter, mark] => letter.isAlpha && (mark == ':' || mark == '|')
  | _ => false

/-- A segment of a file's path, with a colon behind the letter of a drive. -/
def driveSegment (segment : String) : String :=
  match segment.toList with
  | [letter, mark] => if isDrive [letter, mark] then String.ofList [letter, ':'] else segment
  | _ => segment

/-- Adds an escaped segment to a path. Dots move within the path and are not kept; one at the end
leaves the path open. -/
def addSegment (scheme : String) (segments : List String) (segment : String) (last : Bool) :
    List String :=
  if isDoubleDot segment then
    if last then segments.dropLast ++ [""] else segments.dropLast
  else if isSingleDot segment then
    if last then segments ++ [""] else segments
  else segments ++ [if isFile scheme then driveSegment segment else segment]

/-- A path of a file does not begin with empty segments. -/
def settle (scheme : String) (segments : List String) : List String :=
  if isFile scheme then
    match segments.dropWhile (· == "") with
    | [] => [""]
    | segments => segments
  else segments

/-- A character that is dropped wherever it stands in a URL. -/
def isDropped (c : Char) : Bool := c == '\t' || c == '\n' || c == '\r'

/-- A path to which segments can be added: an empty segment at its end gives way. -/
def openEnd : List String → List String
  | [] => []
  | segments => if segments.getLast? = some "" then segments.dropLast else segments

/-- One more segment at the end of a path. A text of dots adds none. -/
def pushSegment (scheme : String) (segments : List String) (segment : String) : List String :=
  if segment = "." ∨ segment = ".." then segments
  else
    let kept := segment.toList.filter (! isDropped ·)
    let written := String.ofList (Percent.escape (keptInSegment (isSpecial scheme)) kept)
    settle scheme
      (addSegment scheme (if segments = [""] then [] else segments) written true)

/-- The URL with segments added to its path, if it can carry any. -/
def extend (url : Url) (added : List String) : Option Url :=
  match url.path with
  | .plain _ => none
  | .segments list =>
    let start := if list = [""] then list else openEnd list
    some { url with path := .segments (added.foldl (pushSegment url.scheme) start) }

end Url

end HomeConsole
