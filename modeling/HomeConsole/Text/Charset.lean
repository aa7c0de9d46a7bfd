import HomeConsole.Text.MultiByte
import HomeConsole.Text.SingleByte
import HomeConsole.Text.Utf8

/-!
# Charsets of bodies

The text behind the bytes of a body. A byte order mark at the front decides; then the charset that
the content type names; then UTF-8. Bytes that mean nothing become U+FFFD. The charsets and their
labels are those of the web; some of them are known and yet never read. A label of none of them
counts as no label.
-/

namespace HomeConsole.Charset

/-- A way to write text as bytes. -/
inductive Encoding where
  | utf8
  | utf16 (bigEndian : Bool)
  | singleByte (table : SingleByte)
  | paired (code : Paired)
  | eucJp
  | gb18030
  | iso2022Jp
  /-- A way that is known and never read. -/
  | refused

/-- The character for a byte. -/
def SingleByte.char (table : SingleByte) (b : UInt8) : Char :=
  let n := b.toNat
  if n < 0x80 then Char.ofNat n
  else
    match table.runs.find? fun (first, _, count) => first ≤ n && n < first + count with
    | some (first, code, _) => Char.ofNat (code + (n - first))
    | none => '\uFFFD'

/-- The text behind bytes. -/
def Encoding.read : Encoding → List UInt8 → List Char
  | utf8, bytes => Utf8.decodeLossy bytes
  | utf16 bigEndian, bytes => (Utf16.reader bigEndian).read bytes
  | singleByte table, bytes => bytes.map table.char
  | paired code, bytes => code.reader.read bytes
  | eucJp, bytes => EucJp.reader.read bytes
  | gb18030, bytes => Gb18030.reader.read bytes
  | iso2022Jp, bytes => Iso2022.read .ascii false bytes
  | refused, bytes => if bytes.isEmpty then [] else ['\uFFFD']

/-- The encodings that are not of single bytes, with the labels they go by. -/
def encodings : List (List String × Encoding) := [
  (["utf-8", "utf8", "unicode-1-1-utf-8", "unicode11utf8", "unicode20utf8", "x-unicode20utf8"],
    .utf8),
  (["utf-16", "utf-16le", "csunicode", "iso-10646-ucs-2", "ucs-2", "unicode", "unicodefeff"],
    .utf16 false),
  (["utf-16be", "unicodefffe"], .utf16 true),
  (["csshiftjis", "ms932", "ms_kanji", "shift-jis", "shift_jis", "sjis", "windows-31j", "x-sjis"],
    .paired shiftJis),
  (["cseucpkdfmtjapanese", "euc-jp", "x-euc-jp"], .eucJp),
  (["csiso2022jp", "iso-2022-jp"], .iso2022Jp),
  (["chinese", "csgb2312", "csiso58gb231280", "gb18030", "gb2312", "gb_2312", "gb_2312-80", "gbk",
    "iso-ir-58", "x-gbk"], .gb18030),
  (["big5", "big5-hkscs", "cn-big5", "csbig5", "x-x-big5"], .paired big5),
  (["cseuckr", "csksc56011987", "euc-kr", "iso-ir-149", "korean", "ks_c_5601-1987",
    "ks_c_5601-1989", "ksc5601", "ksc_5601", "windows-949"], .paired eucKr),
  (["csiso2022kr", "hz-gb-2312", "iso-2022-cn", "iso-2022-cn-ext", "iso-2022-kr", "replacement"],
    .refused)]

/-- The form in which labels are compared. -/
def foldLabel (label : String) : String := label.trimAscii.copy.toLower

/-- The encoding that a label stands for. -/
def ofLabel? (label : String) : Option Encoding :=
  let label := foldLabel label
  ((encodings.find? (·.1.contains label)).map (·.2)).or
    ((singleBytes.find? (·.labels.contains label)).map .singleByte)

/-! ## Content types -/

/-- A character of a token. -/
def isTokenChar (c : Char) : Bool :=
  c.isAlphanum || ['!', '#', '$', '%', '&', '\'', '*', '+', '-', '.', '^', '_', '\x60', '|',
    '~'].contains c

/-- A token that is not empty. -/
def isToken (cs : List Char) : Bool := ! cs.isEmpty && cs.all isTokenChar

/-- A character that may stand between quotes. -/
def isQuotable (c : Char) : Bool := 0x20 ≤ c.toNat && c.toNat != 0x7F && c != '"'

/-- The value of a parameter: a token, or a text between quotes and perhaps blanks behind them. Only
the last value of all may be missing. -/
def value? (isLast : Bool) (text : List Char) : Option String :=
  match text with
  | '"' :: quoted =>
    match (quoted.reverse.dropWhile (· == ' ')) with
    | '"' :: inner =>
      if !inner.isEmpty && inner.all isQuotable then some (String.ofList inner.reverse) else none
    | _ => none
  | text => if isToken text || (isLast && text.isEmpty) then some (String.ofList text) else none

/-- A parameter: its name and its value. -/
def parameter? (isLast : Bool) (text : List Char) : Option (String × String) :=
  let text := text.dropWhile (· == ' ')
  let name := text.takeWhile (· != '=')
  match text.dropWhile (· != '=') with
  | '=' :: value =>
    if isToken name then
      (value? isLast value).map fun value => ((String.ofList name).toLower, value)
    else none
  | _ => none

/-- The parameters between semicolons. Behind the last semicolon there may be none. -/
def parameters? : List (List Char) → Option (List (String × String))
  | [] => some []
  | [piece] => if piece.all (· == ' ') then some [] else (parameter? true piece).map ([·])
  | piece :: more =>
    match parameter? false piece, parameters? more with
    | some parameter, some others => some (parameter :: others)
    | _, _ => none

/-- Pieces of a text between semicolons that are not quoted. -/
def pieces (quoted : Bool) : List Char → List (List Char)
  | [] => [[]]
  | c :: cs =>
    if c = ';' ∧ ! quoted then [] :: pieces quoted cs
    else
      match pieces (if c = '"' then ! quoted else quoted) cs with
      | [] => [[c]]
      | piece :: more => (c :: piece) :: more

/-- Whether a text names a type and a subtype. -/
def isType (text : List Char) : Bool :=
  let main := text.takeWhile (· != '/')
  let sub := (text.dropWhile (· != '/')).drop 1
  isToken main && isToken sub

/-- The charset that a content type names. -/
def named? (contentType : String) : Option String :=
  match pieces false contentType.toList with
  | [] => none
  | kind :: parameters =>
    if isType kind then
      ((parameters? parameters).bind fun found => found.find? (·.1 == "charset")).map (·.2)
    else none

/-- The encoding and the bytes behind a byte order mark. -/
def marked? : List UInt8 → Option (Encoding × List UInt8)
  | 0xEF :: 0xBB :: 0xBF :: rest => some (.utf8, rest)
  | 0xFF :: 0xFE :: rest => some (.utf16 false, rest)
  | 0xFE :: 0xFF :: rest => some (.utf16 true, rest)
  | _ => none

/-- The encoding that a content type asks for. -/
def chosen (contentType : Option String) : Encoding :=
  ((contentType.bind named?).bind ofLabel?).getD .utf8

/-- The text of a body. -/
def decode (contentType : Option String) (bytes : List UInt8) : String :=
  let (encoding, bytes) := (marked? bytes).getD (chosen contentType, bytes)
  String.ofList (encoding.read bytes)

end HomeConsole.Charset
