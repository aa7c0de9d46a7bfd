import HomeConsole.Key
import HomeConsole.Screen.Line

/-!
# Flags and switches

A flag is drawn as one of two signs. A switch is a flag with a label that keys can turn over.
-/

namespace HomeConsole

/-- The signs of a flag. -/
inductive FlagSign where
  | affirmative
  | negative
deriving DecidableEq

namespace FlagSign

/-- The sign of a flag. -/
def of (flag : Bool) : FlagSign := if flag then affirmative else negative

/-- The sign in its colour. -/
def span : FlagSign → Span
  | affirmative => ⟨"✔", .colored .green⟩
  | negative => ⟨"✘", .colored .red⟩

end FlagSign

/-- A switch that is on or off. -/
structure Switch where
  label : String
  isOn : Bool

namespace Switch

/-- The label and the position of the switch. -/
def line (switch : Switch) : Line :=
  let position : Span :=
    if switch.isOn then
      ⟨"[ ON ]", { foreground := some .black, background := some .green, bold := true }⟩
    else ⟨"[ OFF ]", .colored .darkGray⟩
  [⟨switch.label, .colored .gray⟩, ⟨" ", .plain⟩, position]

/-- Whether a key turns a switch over. -/
def isTurnedBy : Key → Bool
  | .enter => true
  | .char c => c == ' '
  | _ => false

end Switch

end HomeConsole
