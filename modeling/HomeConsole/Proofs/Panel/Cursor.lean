import HomeConsole.Proofs.Presentation.OpenPrompt
import HomeConsole.Proofs.Text.Fit

/-!
# The cursor of the prompt

The cursor stands behind the typed text, or in the last column where the text has no end within the
area. Its column is counted in words of 16 bits, so a text of as many columns as a word does not
count brings it back to the left.
-/

namespace HomeConsole.Prompt

variable {keys : List Key} {area : Area}

/-! ## Typing -/

/-- A prompt into which keys were typed. -/
def typing (keys : List Key) : Prompt :=
  keys.foldl (fun prompt key => (prompt.press key).1) {}

theorem typing_concat (keys : List Key) (key : Key) :
    typing (keys ++ [key]) = ((typing keys).press key).1 := by
  simp [typing]

/-- A key changes the typed text of a prompt, and nothing comes of it. -/
theorem press_of_typing {key : Key} (h : key.IsTyping) (keys : List Key) :
    press ⟨(typedText keys).reverse⟩ key = (⟨(typedText (keys ++ [key])).reverse⟩, none) := by
  obtain ⟨henter, hescape, -⟩ := h
  rw [typedText_concat]
  cases key with
  | enter => exact absurd rfl henter
  | escape => exact absurd rfl hescape
  | char c =>
      rw [List.reverse_concat]
      rfl
  | backspace =>
      rw [← List.tail_reverse]
      rfl
  | up | down | pageUp | pageDown | interrupt | resize => rfl

theorem typing_eq (h : ∀ key ∈ keys, key.IsTyping) :
    typing keys = ⟨(typedText keys).reverse⟩ := by
  induction keys using List.reverseRecOn with
  | nil => rfl
  | append_singleton keys key ih =>
      rw [List.forall_mem_append, List.forall_mem_singleton] at h
      rw [typing_concat, ih h.1, press_of_typing h.2]

theorem text_typing (h : ∀ key ∈ keys, key.IsTyping) :
    (typing keys).text = String.ofList (typedText keys) := by
  rw [typing_eq h, text, List.reverse_reverse]

/-! ## The column -/

/-- The column is that behind the text as far as a word counts, or the last one of the area. -/
theorem toNat_cursor (prompt : Prompt) (hright : area.right < 65536) :
    (prompt.cursor area).toNat =
      min ((area.x + 1 + columns prompt.text) % 65536) (area.right - 1) := by
  have hbehind : (area.x.toUInt16 + 1 + (columns prompt.text).toUInt16).toNat =
      (area.x + 1 + columns prompt.text) % 65536 := by
    simp only [UInt16.toNat_add, Nat.toUInt16_eq, UInt16.toNat_ofNat', UInt16.toNat_one]
    omega
  have hlast : (area.right - 1).toUInt16.toNat = area.right - 1 := by
    rw [Nat.toUInt16_eq, UInt16.toNat_ofNat']
    omega
  rw [cursor, UInt16.toNat_min, hbehind, hlast]

/-- After any typing, the cursor is in the column behind the text, or in the last one of the area if
the text is too long for it, as long as a word counts the columns. Beyond that they are counted from
the left again, and the cursor is in its place only if this still leads behind the area. It never
leaves the area to the right, and to the left only where the count begins again. -/
theorem cursor_is_behind_text_iff (hkeys : ∀ key ∈ keys, key.IsTyping) (hwidth : 0 < area.width)
    (hright : area.right < 65536) :
    let prompt := typing keys
    let text := String.ofList (typedText keys)
    let behind := area.x + 1 + columns text
    let column := (prompt.cursor area).toNat
    prompt.text = text ∧ column = min (behind % 65536) (area.right - 1) ∧
      (column = min behind (area.right - 1) ↔
        behind < 65536 ∨ area.right - 1 ≤ behind % 65536) ∧
      column < area.right ∧ (area.x ≤ column ↔ area.x ≤ behind % 65536) := by
  intro prompt text behind column
  have htext : prompt.text = text := text_typing hkeys
  have hcolumn : column = min (behind % 65536) (area.right - 1) := by
    have hprompt := toNat_cursor prompt hright
    rwa [htext] at hprompt
  have hlast : area.x ≤ area.right - 1 ∧ area.right - 1 < area.right := by
    simp only [Area.right]
    omega
  exact ⟨htext, hcolumn, by omega, by omega, by omega⟩

/-- Two signs of two columns are typed at the end of a short line. -/
theorem wide_signs_fill_line :
    let keys : List Key := [.char '世', .backspace, .char '世', .char '界']
    let area : Area := ⟨0, 23, 4, 1⟩
    (∀ key ∈ keys, key.IsTyping) ∧ 0 < area.width ∧ area.right < 65536 ∧
      ((typing keys).cursor area).toNat = 3 := by
  intro keys area
  have hkeys : ∀ key ∈ keys, key.IsTyping := by simp [keys, Key.IsTyping]
  have hletters : ∀ c ∈ "世界".toList, within Columns.ideographs c.toNat = true :=
    Columns.forall_of_all (by decide)
  have hcolumns : columns (String.ofList (typedText keys)) = 4 := columns_of_ideographs hletters
  have hwidth : 0 < area.width := by decide
  have hright : area.right < 65536 := by decide
  obtain ⟨-, hcolumn, -⟩ := cursor_is_behind_text_iff hkeys hwidth hright
  refine ⟨hkeys, hwidth, hright, ?_⟩
  rw [hcolumn, hcolumns]
  rfl

theorem typedText_replicate (c : Char) (n : Nat) :
    typedText (List.replicate n (.char c)) = List.replicate n c := by
  induction n with
  | zero => rfl
  | succ n ih => rw [List.replicate_succ', List.replicate_succ', typedText_concat, ih]

/-- A text of one column more than a word counts has its cursor behind the colon, far from its
end. -/
theorem long_text_loses_cursor :
    let keys := List.replicate 65536 (Key.char 'a')
    let text := String.ofList (typedText keys)
    let area : Area := ⟨0, 23, 80, 1⟩
    (∀ key ∈ keys, key.IsTyping) ∧ ((typing keys).cursor area).toNat = 1 ∧
      min (area.x + 1 + columns text) (area.right - 1) = 79 := by
  intro keys text area
  have hkeys : ∀ key ∈ keys, key.IsTyping := by
    intro key hkey
    rw [List.eq_of_mem_replicate hkey]
    simp [Key.IsTyping]
  have hcolumns : columns text = 65536 := by
    have hupright : ∀ c ∈ List.replicate 65536 'a', Columns.IsUpright c := by
      intro c hc
      rw [List.eq_of_mem_replicate hc]
      exact Columns.isUpright_of_printable (by decide) (by decide)
    rw [columns_ofList, typedText_replicate, Columns.ofList_of_upright hupright,
      List.length_replicate]
  refine ⟨hkeys, ?_, ?_⟩
  · rw [toNat_cursor _ (by decide), text_typing hkeys, hcolumns]
    decide
  · rw [hcolumns]
    decide

end HomeConsole.Prompt
