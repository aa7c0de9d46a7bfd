import HomeConsole.Url.Host
import HomeConsole.Url.Name.Folding
import HomeConsole.Url.Name.Label
import HomeConsole.Url.Punycode

/-!
# Names of hosts

A name is folded, composed, cut into labels at its points, and written in ASCII, as UTS 46 has it
for names on the web: hyphens may stand anywhere, no length is too great, and of ASCII only what
would end the host is refused.
-/

namespace HomeConsole.Host

/-- A character of ASCII that no name may hold. -/
def isForbidden (c : Char) : Bool :=
  c.toNat ≤ 0x20 || c.toNat == 0x7F ||
    ['%', '#', '/', ':', '<', '>', '?', '@', '[', '\\', ']', '^', '|'].contains c

/-- Whether a text is of ASCII. -/
def isAscii (cs : List Char) : Bool := cs.all (·.toNat < 0x80)

/-- The mark of a label that stands for one beyond ASCII. -/
def mark : List Char := ['x', 'n', '-', '-']

/-- Whether a label is as folding and composing leave it, and more than ASCII. -/
def isFinished (label : List Char) : Bool :=
  ! isAscii label && ! mark.isPrefixOf label && Name.compose label == label &&
    label.all fun c => Name.fold? c == some [c]

/-- A label. -/
structure Label where
  /-- The label as it reads. -/
  text : List Char
  /-- The label as it is written in ASCII. -/
  ascii : List Char

/-- The label that folded characters make. -/
def label? (label : List Char) : Option Label :=
  if mark.isPrefixOf label then
    match Punycode.decode? (label.drop mark.length) with
    | none => none
    | some text =>
      if isAscii label ∧ isFinished text ∧ Name.isWellFormed text then some ⟨text, label⟩ else none
  else if isAscii label then some ⟨label, label⟩
  else if Name.isWellFormed label then some ⟨label, mark ++ Punycode.encode label⟩
  else none

/-- A name in ASCII. -/
def ascii? (name : List Char) : Option (List Char) :=
  match name.mapM Name.fold? with
  | none => none
  | some folded =>
    let composed := Name.compose folded.flatten
    if composed.any isForbidden then none
    else
      match (splitWhere (· == '.') composed).mapM label? with
      | none => none
      | some labels =>
        let isMixed := labels.any fun label => label.text.any Name.isLeftward
        if isMixed ∧ ! labels.all (Name.directionFits ·.text) then none
        else some (['.'].intercalate (labels.map (·.ascii)))

/-- The host of a scheme that knows its hosts. -/
def parse (text : List Char) : Except UrlFault Host :=
  match text with
  | '[' :: rest => bracketed rest
  | _ =>
    match ascii? (Utf8.decodeLossy (Percent.decodeBytes (Utf8.encode text))) with
    | none => .error .badDomain
    | some [] => .error .emptyHost
    | some folded =>
      if endsInNumber folded then
        match v4? folded with
        | some address => .ok (.v4 address)
        | none => .error .badV4
      else .ok (.name (String.ofList folded))

end HomeConsole.Host
