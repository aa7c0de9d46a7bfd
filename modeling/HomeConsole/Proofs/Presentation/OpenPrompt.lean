import Mathlib.Data.List.Induction
import HomeConsole.Presentation.Basic

/-!
# The open prompt

A prompt that is open takes in every key but the one that ends the console, whatever the console is
meanwhile. The keys make no action and change nothing but the typed text, until the text is handed
over or given up; then all is as it was before the prompt was opened.
-/

namespace HomeConsole

/-- What is left of the text that keys have typed: a character is put behind it, a backspace takes
the last one away, and other keys leave it. -/
def typedText (keys : List Key) : List Char :=
  keys.foldl (fun text key =>
    match key with
    | .char c => text ++ [c]
    | .backspace => text.dropLast
    | _ => text) []

/-- A key that an open prompt neither hands over nor is closed by, and that does not end the
console. -/
def Key.IsTyping (key : Key) : Prop := key ≠ .enter ∧ key ≠ .escape ∧ key ≠ .interrupt

theorem typedText_concat (keys : List Key) (key : Key) :
    typedText (keys ++ [key]) =
      match key with
      | .char c => typedText keys ++ [c]
      | .backspace => (typedText keys).dropLast
      | _ => typedText keys := by
  cases key <;> exact List.foldl_append

namespace Presentation

variable {presentation : Presentation}

/-- The presentation with an open prompt in which a text was typed. -/
def prompting (presentation : Presentation) (text : List Char) : Presentation :=
  { presentation with prompt := some ⟨text.reverse⟩ }

/-- Takes keys in, each under a console of its own, and keeps the actions they make. -/
def pressEach (presentation : Presentation) (events : List (Console × Key)) :
    Presentation × List Action :=
  events.foldl (fun (presentation, actions) (console, key) =>
    let (next, action) := presentation.press console.view key
    (next, actions ++ action.toList)) (presentation, [])

theorem pressEach_concat (presentation : Presentation) (events : List (Console × Key))
    (console : Console) (key : Key) :
    presentation.pressEach (events ++ [(console, key)]) =
      (((presentation.pressEach events).1.press console.view key).1,
        (presentation.pressEach events).2 ++
          ((presentation.pressEach events).1.press console.view key).2.toList) := by
  simp [pressEach]

theorem press_interrupt (presentation : Presentation) (view : View) :
    presentation.press view .interrupt = (presentation, some .quit) := rfl

theorem press_colon (h : presentation.prompt = none) (view : View) :
    presentation.press view (.char ':') = (presentation.prompting [], none) := by
  simp [press, h, prompting]

/-! ## Keys in an open prompt -/

theorem press_typing {key : Key} (h : key.IsTyping) (keys : List Key) (view : View) :
    (presentation.prompting (typedText keys)).press view key =
      (presentation.prompting (typedText (keys ++ [key])), none) := by
  obtain ⟨henter, hescape, hinterrupt⟩ := h
  rw [typedText_concat]
  cases key with
  | enter => exact absurd rfl henter
  | escape => exact absurd rfl hescape
  | interrupt => exact absurd rfl hinterrupt
  | char c =>
      rw [prompting, prompting, List.reverse_concat]
      rfl
  | backspace =>
      rw [prompting, prompting, ← List.tail_reverse]
      rfl
  | up | down | pageUp | pageDown | resize => rfl

theorem press_enter (h : presentation.prompt = none) (text : List Char) (view : View) :
    (presentation.prompting text).press view .enter =
      (presentation, some (.navigate (String.ofList text))) := by
  cases presentation with
  | mk overview detail prompt path =>
      cases h
      show (_, some (Action.navigate (String.ofList text.reverse.reverse))) = _
      rw [List.reverse_reverse]
      rfl

theorem press_escape (h : presentation.prompt = none) (text : List Char) (view : View) :
    (presentation.prompting text).press view .escape = (presentation, none) := by
  cases presentation with
  | mk overview detail prompt path =>
      cases h
      rfl

theorem pressEach_typing {events : List (Console × Key)} (h : ∀ e ∈ events, e.2.IsTyping) :
    (presentation.prompting []).pressEach events =
      (presentation.prompting (typedText (events.map Prod.snd)), []) := by
  induction events using List.reverseRecOn with
  | nil => rfl
  | append_singleton events event ih =>
      obtain ⟨console, key⟩ := event
      rw [List.forall_mem_append, List.forall_mem_singleton] at h
      rw [pressEach_concat, ih h.1, press_typing h.2, List.map_append]
      rfl

/-- An open prompt takes in every key. No key makes an action or changes anything but the typed text
until enter hands just this text over or escape gives it up, and both leave everything as it was
before the prompt was opened. The key that ends the console does so all the while. -/
theorem open_prompt_takes_keys (hclosed : presentation.prompt = none) (first : Console)
    {events : List (Console × Key)} (hkeys : ∀ e ∈ events, e.2.IsTyping) :
    let opened := presentation.press first.view (.char ':')
    let typed := opened.1.pressEach events
    let text := String.ofList (typedText (events.map Prod.snd))
    (opened.2 = none ∧ typed.2 = []) ∧
      (∃ prompt, prompt.text = text ∧ typed.1 = { presentation with prompt := some prompt }) ∧
      ∀ console : Console,
        typed.1.press console.view .enter = (presentation, some (.navigate text)) ∧
          typed.1.press console.view .escape = (presentation, none) ∧
          typed.1.press console.view .interrupt = (typed.1, some .quit) ∧
          presentation.press console.view .interrupt = (presentation, some .quit) := by
  intro opened typed text
  have hopened : opened = (presentation.prompting [], none) := press_colon hclosed first.view
  have htyped : typed = (presentation.prompting (typedText (events.map Prod.snd)), []) := by
    simp only [typed, hopened]
    exact pressEach_typing hkeys
  rw [htyped]
  refine ⟨⟨congrArg Prod.snd hopened, rfl⟩, ?_, ?_⟩
  · exact ⟨⟨(typedText (events.map Prod.snd)).reverse⟩, by simp [Prompt.text, text], rfl⟩
  · intro console
    exact ⟨press_enter hclosed _ console.view, press_escape hclosed _ console.view,
      press_interrupt _ _, press_interrupt _ _⟩

/-- Letters that mean something on a page, a wide sign, and a backspace too many are typed while a
list arrives. -/
theorem quick_prompt_takes_keys :
    let events : List (Console × Key) :=
      [(Console.new, .backspace), (Console.new, .char 'q'), (Console.new, .char '世'),
        ({ Console.new with view := .overview (.loaded []) }, .backspace),
        ({ Console.new with view := .overview (.loaded []) }, .down), (Console.new, .char ':')]
    (∀ e ∈ events, e.2.IsTyping) ∧ Presentation.new.prompt = none ∧
      ((Presentation.new.press Console.new.view (.char ':')).1.pressEach events).1.press
        Console.new.view .enter = (Presentation.new, some (.navigate "q:")) := by
  intro events
  have hkeys : ∀ e ∈ events, e.2.IsTyping := by simp [events, Key.IsTyping]
  have hclosed : Presentation.new.prompt = none := rfl
  have htaken := open_prompt_takes_keys hclosed Console.new hkeys
  exact ⟨hkeys, hclosed, (htaken.2.2 Console.new).1⟩

end Presentation

end HomeConsole
