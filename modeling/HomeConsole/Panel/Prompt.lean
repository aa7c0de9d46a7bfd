import HomeConsole.Key
import HomeConsole.Screen.Canvas

/-!
# The prompt

A line at the bottom in which a path is typed. Enter hands the path over, escape gives it up.
-/

namespace HomeConsole

/-- A prompt with what was typed so far. -/
structure Prompt where
  /-- The typed characters, latest first. -/
  typed : List Char := []
deriving DecidableEq, Inhabited

/-- What comes of a key in a prompt. -/
inductive PromptResult where
  | submit (text : String)
  | cancel
deriving DecidableEq

namespace Prompt

/-- The text of a prompt. -/
def text (prompt : Prompt) : String := String.ofList prompt.typed.reverse

/-- Takes a key in. A text that is handed over leaves an empty prompt behind. -/
def press (prompt : Prompt) : Key → Prompt × Option PromptResult
  | .char c => (⟨c :: prompt.typed⟩, none)
  | .backspace => (⟨prompt.typed.tail⟩, none)
  | .enter => ({}, some (.submit prompt.text))
  | .escape => (prompt, some .cancel)
  | _ => (prompt, none)

/-- The line of a prompt. -/
def line (prompt : Prompt) : Line := [⟨":", .colored .yellow⟩, ⟨prompt.text, .plain⟩]

/-- The column of the cursor: behind the text, but within the area. Columns are words of 16 bits. -/
def cursor (prompt : Prompt) (area : Area) : UInt16 :=
  min (area.x.toUInt16 + 1 + (columns prompt.text).toUInt16) (area.right - 1).toUInt16

/-- Draws a prompt. -/
def draw (prompt : Prompt) (canvas : Canvas) (area : Area) : Canvas :=
  canvas.drawLine area prompt.line .left

end Prompt

end HomeConsole
