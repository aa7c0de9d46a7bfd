import HomeConsole.Url.Domain

/-!
# Reading addresses

`Url.parse` reads a text as a URL that stands for itself, without another one to start from.
-/

namespace HomeConsole.Url

/-- A character that may follow the first letter of a scheme. -/
def isSchemeChar (c : Char) : Bool := c.isAlphanum || c == '+' || c == '-' || c == '.'

/-- The scheme in front of the first colon, in lower case, and what comes after it. -/
def splitScheme (text : List Char) : Option (String × List Char) :=
  match text with
  | [] => none
  | first :: _ =>
    if ! first.isAlpha then none
    else
      match text.dropWhile isSchemeChar with
      | ':' :: rest => some (String.ofList ((text.takeWhile isSchemeChar).map Char.toLower), rest)
      | _ => none

/-- A text without blanks and controls at its ends, and without line breaks and tabs. -/
def clean (text : List Char) : List Char :=
  let isEdge (c : Char) : Bool := c.toNat ≤ 0x20
  let trimmed := ((text.dropWhile isEdge).reverse.dropWhile isEdge).reverse
  trimmed.filter (! isDropped ·)

/-- A slash; where a scheme takes backslashes for slashes, these too. -/
def isSlash (special : Bool) (c : Char) : Bool := c == '/' || (special && c == '\\')

/-- The end of an authority or a path. -/
def isQueryMark (c : Char) : Bool := c == '?' || c == '#'

/-- Adds the pieces of a path one by one. -/
def addPieces (scheme : String) (segments : List String) : List (List Char) → List String
  | [] => segments
  | [piece] =>
    addSegment scheme segments (String.ofList (Percent.escape keptInPath piece)) true
  | piece :: pieces =>
    addPieces scheme
      (addSegment scheme segments (String.ofList (Percent.escape keptInPath piece)) false) pieces

/-- The segments of a path behind its first slash. -/
def pathSegments (scheme : String) (text : List Char) : List String :=
  settle scheme (addPieces scheme [] (splitWhere (isSlash (isSpecial scheme)) text))

/-- The path behind an authority, which is empty only for schemes that allow it. -/
def pathAfterAuthority (scheme : String) (text : List Char) : UrlPath :=
  match text with
  | [] => .segments (if isSpecial scheme then [""] else [])
  | c :: rest =>
    .segments (pathSegments scheme (if isSlash (isSpecial scheme) c then rest else c :: rest))

/-- The query and the fragment at the end of a URL. -/
def tail (scheme : String) (text : List Char) : Option String × Option String :=
  let fragment (text : List Char) : Option String :=
    match text with
    | '#' :: rest => some (String.ofList (Percent.escape keptInFragment rest))
    | _ => none
  match text with
  | '?' :: rest =>
    let query := rest.takeWhile (· != '#')
    (some (String.ofList (Percent.escape (keptInQuery (isSpecial scheme)) query)),
      fragment (rest.dropWhile (· != '#')))
  | text => (none, fragment text)

/-- The text up to the last `@` and the text behind it. -/
def splitUser (text : List Char) : Option (List Char × List Char) :=
  if text.contains '@' then
    let host := (text.reverse.takeWhile (· != '@')).reverse
    some (text.take (text.length - host.length - 1), host)
  else none

/-- A name and a password, escaped. A password that is empty goes without its colon. -/
def userText (text : List Char) : String :=
  let escaped (cs : List Char) : List Char := Percent.escape keptInUser cs
  let name := text.takeWhile (· != ':')
  match text.dropWhile (· != ':') with
  | _ :: first :: more => String.ofList (escaped name ++ ':' :: escaped (first :: more))
  | _ => String.ofList (escaped name)

/-- The text of a host, and what comes after it. A colon between brackets belongs to the host. -/
def splitHost (inside : Bool) (text : List Char) : List Char × List Char :=
  match text with
  | [] => ([], [])
  | c :: rest =>
    if c = ':' ∧ ! inside then ([], c :: rest)
    else
      let inside := if c = '[' then true else if c = ']' then false else inside
      let (host, rest) := splitHost inside rest
      (c :: host, rest)

/-- Reads a port. None is kept if it is the usual one. -/
def readPort (scheme : String) (text : List Char) : Except UrlFault (Option Nat) :=
  if ! text.all Char.isDigit then .error .badPort
  else
    let n := Host.digitsValue 10 text
    if 65535 < n then .error .badPort
    else if text.isEmpty ∨ schemePort? scheme = some n then .ok none
    else .ok (some n)

/-- Reads an authority, up to the slash, the query or the fragment behind it. -/
def readAuthority (scheme : String) (text : List Char) (rest : List Char) :
    Except UrlFault Authority := do
  let special := isSpecial scheme
  let (user, text) ← match splitUser text with
    | none => pure ("", text)
    | some ([], host) =>
      if host.isEmpty ∧ ! rest.isEmpty then throw .emptyHost else pure ("", host)
    | some (user, host) => pure (userText user, host)
  let (hostText, portText) := splitHost false text
  if special ∧ hostText.isEmpty then throw .emptyHost
  let host ← if special then Host.parse hostText else Host.parsePlain hostText
  if host = .name "" ∧ (! portText.isEmpty ∨ ! user.isEmpty) then throw .emptyHost
  return ⟨user, host, ← readPort scheme (portText.drop 1)⟩

/-- Puts a URL together from its front and the text of its query and fragment. -/
def assemble (scheme : String) (authority : Option Authority) (path : UrlPath)
    (rest : List Char) : Url :=
  let (query, fragment) := tail scheme rest
  ⟨scheme, authority, path, query, fragment⟩

/-- Reads what follows the two slashes in front of an authority. A port may end in a backslash under
any scheme. -/
def afterSlashes (scheme : String) (text : List Char) : Except UrlFault Url := do
  let special := isSpecial scheme
  let isEnd (c : Char) : Bool := isSlash special c || isQueryMark c
  let rest := text.dropWhile (! isEnd ·)
  let found ← readAuthority scheme (text.takeWhile (! isEnd ·)) rest
  let path := rest.takeWhile (! isQueryMark ·)
  return assemble scheme (some found) (pathAfterAuthority scheme path)
    (rest.dropWhile (! isQueryMark ·))

/-- Reads what follows the scheme of a file. -/
def file (scheme : String) (text : List Char) : Except UrlFault Url :=
  let isAnySlash := isSlash true
  let path (text : List Char) : UrlPath :=
    .segments (pathSegments scheme (text.takeWhile (! isQueryMark ·)))
  let rest := text.dropWhile (! isQueryMark ·)
  let nowhere : Authority := ⟨"", .name "", none⟩
  match text with
  | a :: b :: more =>
    if isAnySlash a && isAnySlash b then
      let isEnd (c : Char) : Bool := isAnySlash c || isQueryMark c
      let hostText := more.takeWhile (! isEnd ·)
      let after := more.dropWhile (! isEnd ·)
      if hostText.isEmpty || isDrive hostText then
        .ok (assemble scheme (some nowhere) (path more) rest)
      else
        match Host.parse hostText with
        | .error fault => .error fault
        | .ok host =>
          let host := if host = .name "localhost" then .name "" else host
          .ok (assemble scheme (some ⟨"", host, none⟩) (path (after.drop 1)) rest)
    else .ok (assemble scheme (some nowhere) (path text) rest)
  | _ => .ok (assemble scheme (some nowhere) (path text) rest)

/-- Reads what follows any other scheme. -/
def other (scheme : String) (text : List Char) : Except UrlFault Url :=
  match text with
  | '/' :: '/' :: more => afterSlashes scheme more
  | '/' :: more =>
    .ok (assemble scheme none (.segments (pathSegments scheme (more.takeWhile (! isQueryMark ·))))
      (more.dropWhile (! isQueryMark ·)))
  | _ =>
    let path := Percent.escape (! isControl ·) (text.takeWhile (! isQueryMark ·))
    .ok (assemble scheme none (.plain (String.ofList path)) (text.dropWhile (! isQueryMark ·)))

/-- Reads a URL. -/
def parse (text : String) : Except UrlFault Url :=
  match splitScheme (clean text.toList) with
  | none => .error .relative
  | some (scheme, rest) =>
    if isFile scheme then file scheme rest
    else if isSpecial scheme then afterSlashes scheme (rest.dropWhile (isSlash true))
    else other scheme rest

end HomeConsole.Url
