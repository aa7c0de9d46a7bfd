/-!
# Styles

Colours and emphasis of a cell. A style may leave things open; laid over another one it changes only
what it names.
-/

namespace HomeConsole

/-- The colours in use. -/
inductive Color where
  | black
  | red
  | green
  | yellow
  | cyan
  | gray
  | darkGray
  | white
deriving DecidableEq, Inhabited

/-- Colours, where they are not those of the terminal, and emphasis. -/
structure Style where
  foreground : Option Color := none
  background : Option Color := none
  bold : Bool := false
  underlined : Bool := false
  reversed : Bool := false
deriving DecidableEq, Inhabited

namespace Style

/-- The style that names nothing. -/
def plain : Style := {}

/-- A colour of the text. -/
def colored (color : Color) : Style := { foreground := some color }

/-- A style laid over another one. -/
def onto (top base : Style) : Style where
  foreground := top.foreground <|> base.foreground
  background := top.background <|> base.background
  bold := top.bold || base.bold
  underlined := top.underlined || base.underlined
  reversed := top.reversed || base.reversed

theorem onto_plain (s : Style) : s.onto plain = s := by
  cases s with
  | mk f b _ _ _ => cases f <;> cases b <;> simp [onto, plain]

theorem plain_onto (s : Style) : plain.onto s = s := by
  simp [onto, plain]

end Style

end HomeConsole
