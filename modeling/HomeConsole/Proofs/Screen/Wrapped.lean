import HomeConsole.Proofs.Screen.Rows

/-!
# Rows of a broken text

A line is ended when its next glyph finds the width used up. Where each glyph has one column or two,
the glyph that was let in last begins within the width or right behind it, and a box has its border
there. Glyphs without columns would undo this: a line of such glyphs alone is not empty, so the word
behind it is not held back at the width, and yet it leaves the whole width to that word.
-/

namespace HomeConsole

variable {width : Nat} {glyph : Glyph} {glyphs : List Glyph}

/-- A glyph takes one column or two. -/
def Glyph.IsPlain (glyph : Glyph) : Prop := 0 < glyph.columns ∧ glyph.columns ≤ 2

instance (glyph : Glyph) : Decidable glyph.IsPlain := inferInstanceAs (Decidable (_ ∧ _))

namespace Piece

variable {piece front back : Piece}

/-- The columns of a piece are those of its glyphs, and none but the empty piece has no columns. -/
structure Counted (piece : Piece) : Prop where
  columns_eq : piece.columns = glyphColumns piece.glyphs
  pos : piece.glyphs ≠ [] → 0 < piece.columns

theorem counted_empty : Counted {} := ⟨rfl, fun h => absurd rfl h⟩

theorem Counted.push (h : piece.Counted) (hglyph : 0 < glyph.columns) :
    (piece.push glyph).Counted := by
  refine ⟨?_, fun _ => Nat.add_pos_right _ hglyph⟩
  rw [Piece.push, glyphColumns_cons, h.columns_eq, Nat.add_comm]

theorem Counted.append (hfront : front.Counted) (hback : back.Counted) :
    (front.append back).Counted := by
  refine ⟨?_, fun hne => ?_⟩
  · rw [Piece.append, glyphColumns_append, hfront.columns_eq, hback.columns_eq, Nat.add_comm]
  · by_cases hnil : front.glyphs = []
    · refine Nat.add_pos_right _ (hback.pos fun hback => hne ?_)
      rw [Piece.append, hback, hnil, List.append_nil]
    · exact Nat.add_pos_left (hfront.pos hnil) _

theorem Counted.beginBefore (h : piece.Counted) {stop : Nat} (hle : piece.columns ≤ stop) :
    BeginBefore stop 0 piece.glyphs.reverse := by
  refine beginBefore_of_le ?_
  rwa [Nat.zero_add, glyphColumns_reverse, ← h.columns_eq]

end Piece

namespace Wrap

variable {wrap : Wrap}

/-! ## Taking a glyph in -/

/-- Closes the word if a glyph ends it, or has no room beside it in an empty line. -/
def settleWord (width : Nat) (wrap : Wrap) (glyph : Glyph) : Wrap :=
  if (wrap.inWord && glyph.isBlank) ||
      (wrap.line.glyphs.isEmpty && wrap.word.columns + glyph.columns > width) ||
      (wrap.line.glyphs.isEmpty && wrap.blanks.columns + glyph.columns > width) then wrap.closeWord
  else wrap

/-- Whether the width is used up when a glyph comes. -/
def isFull (width : Nat) (wrap : Wrap) (glyph : Glyph) : Bool :=
  wrap.line.columns ≥ width ||
    (glyph.columns > 0 && wrap.line.columns + wrap.blanks.columns + wrap.word.columns ≥ width)

/-- Ends the line if the width is used up. -/
def settleLine (width : Nat) (wrap : Wrap) (glyph : Glyph) : Wrap :=
  if wrap.isFull width glyph then wrap.closeLine width else wrap

/-- Adds a glyph to the blanks or to the word. -/
def add (wrap : Wrap) (glyph : Glyph) : Wrap :=
  if glyph.isBlank then { wrap with blanks := wrap.blanks.push glyph, inWord := false }
  else { wrap with word := wrap.word.push glyph, inWord := true }

theorem push_eq (width : Nat) (wrap : Wrap) (glyph : Glyph) : wrap.push width glyph =
    if glyph.columns > width then wrap
    else
      let ready := wrap.settleWord width glyph
      let free := ready.settleLine width glyph
      if ready.isFull width glyph && glyph.isBlank && free.blanks.glyphs.isEmpty then free
      else free.add glyph :=
  rfl

/-! ## What is kept while glyphs are taken in -/

/-- The finished rows are fine, and so would be the row of the word in an empty line, or that of the
line with the blanks and the word behind it. -/
structure Sound (width : Nat) (wrap : Wrap) : Prop where
  lines : ∀ row ∈ wrap.lines, BeginBefore (width + 1) 0 row
  line : wrap.line.Counted
  word : wrap.word.Counted
  room : (wrap.line.glyphs = [] ∧ BeginBefore (width + 1) 0 wrap.word.glyphs.reverse) ∨
    (wrap.line.glyphs ≠ [] ∧ wrap.blanks.Counted ∧
      wrap.line.columns + wrap.blanks.columns + wrap.word.columns ≤ width + 1)

/-- The word would not be held back, or the line ended, too late. -/
structure Ready (width : Nat) (wrap : Wrap) : Prop where
  lines : ∀ row ∈ wrap.lines, BeginBefore (width + 1) 0 row
  line : wrap.line.Counted
  row : BeginBefore (width + 1) 0 wrap.line.glyphs.reverse
  word : wrap.word.Counted
  room : (wrap.line.glyphs = [] ∧ wrap.word.columns ≤ width) ∨
    (wrap.line.glyphs ≠ [] ∧ wrap.blanks.Counted ∧
      (wrap.line.columns + wrap.blanks.columns + wrap.word.columns ≤ width + 1 ∨
        wrap.word.columns = 0))

/-- There is room for some columns behind the word. -/
structure Roomy (width columns : Nat) (wrap : Wrap) : Prop where
  lines : ∀ row ∈ wrap.lines, BeginBefore (width + 1) 0 row
  line : wrap.line.Counted
  word : wrap.word.Counted
  room : (wrap.line.glyphs = [] ∧ wrap.word.columns ≤ width) ∨
    (wrap.line.glyphs ≠ [] ∧ wrap.blanks.Counted ∧
      wrap.line.columns + wrap.blanks.columns + wrap.word.columns + columns ≤ width + 1)

theorem Sound.closeWord (h : wrap.Sound width) : wrap.closeWord.line.Counted ∧
    BeginBefore (width + 1) 0 wrap.closeWord.line.glyphs.reverse := by
  rcases h.room with ⟨hempty, hword⟩ | ⟨hline, hblanks, hroom⟩
  · have hclosed : wrap.closeWord.line = wrap.line.append wrap.word := by
      simp only [Wrap.closeWord, hempty, List.isEmpty_nil, if_true]
    rw [hclosed]
    refine ⟨h.line.append h.word, ?_⟩
    rwa [Piece.append, hempty, List.append_nil]
  · have hclosed : wrap.closeWord.line = (wrap.line.append wrap.blanks).append wrap.word := by
      simp only [Wrap.closeWord, List.isEmpty_eq_false_iff.mpr hline, Bool.false_eq_true, if_false]
    have hcounted := (h.line.append hblanks).append h.word
    rw [hclosed]
    exact ⟨hcounted, hcounted.beginBefore hroom⟩

theorem Sound.settleWord (h : wrap.Sound width) (glyph : Glyph) :
    (wrap.settleWord width glyph).Ready width := by
  obtain ⟨hcounted, hrow⟩ := h.closeWord
  unfold Wrap.settleWord
  split
  · refine ⟨h.lines, hcounted, hrow, Piece.counted_empty, ?_⟩
    by_cases hempty : wrap.closeWord.line.glyphs = []
    · exact Or.inl ⟨hempty, Nat.zero_le width⟩
    · exact Or.inr ⟨hempty, Piece.counted_empty, Or.inr rfl⟩
  · rename_i hkept
    rcases h.room with ⟨hempty, -⟩ | ⟨hline, hblanks, hroom⟩
    · -- in an empty line the word is kept only while the glyph fits behind it
      simp only [hempty, List.isEmpty_nil, Bool.true_and, Bool.or_eq_true, decide_eq_true_eq,
        not_or] at hkept
      refine ⟨h.lines, h.line, ?_, h.word, Or.inl ⟨hempty, by omega⟩⟩
      rw [hempty]
      trivial
    · exact ⟨h.lines, h.line, h.line.beginBefore (by omega), h.word,
        Or.inr ⟨hline, hblanks, Or.inl hroom⟩⟩

theorem Ready.settleLine (h : wrap.Ready width) (hglyph : glyph.IsPlain) :
    (wrap.settleLine width glyph).Roomy width glyph.columns := by
  obtain ⟨hpos, htwo⟩ := hglyph
  unfold Wrap.settleLine
  split
  · refine ⟨List.forall_mem_cons.mpr ⟨h.row, h.lines⟩, Piece.counted_empty, h.word,
      Or.inl ⟨rfl, ?_⟩⟩
    show wrap.word.columns ≤ width
    rcases h.room with ⟨-, hword⟩ | ⟨hline, -, hroom⟩
    · exact hword
    · -- the line that is ended takes a column at least, so the word fits into the next one
      have := h.line.pos hline
      omega
  · rename_i hfree
    simp only [isFull, Bool.or_eq_true, Bool.and_eq_true, decide_eq_true_eq, not_or, not_and]
      at hfree
    have hroom := hfree.2 hpos
    refine ⟨h.lines, h.line, h.word, h.room.imp_right fun hgoing => ?_⟩
    exact ⟨hgoing.1, hgoing.2.1, by omega⟩

theorem Roomy.add (h : wrap.Roomy width glyph.columns) (hpos : 0 < glyph.columns) :
    (wrap.add glyph).Sound width := by
  unfold Wrap.add
  split
  · refine ⟨h.lines, h.line, h.word, ?_⟩
    rcases h.room with ⟨hempty, hword⟩ | ⟨hline, hblanks, hroom⟩
    · exact Or.inl ⟨hempty, h.word.beginBefore (by omega)⟩
    · refine Or.inr ⟨hline, hblanks.push hpos, ?_⟩
      simp only [Piece.push]
      omega
  · refine ⟨h.lines, h.line, h.word.push hpos, ?_⟩
    rcases h.room with ⟨hempty, hword⟩ | ⟨hline, hblanks, hroom⟩
    · refine Or.inl ⟨hempty, ?_⟩
      simp only [Piece.push, List.reverse_cons, beginBefore_append, BeginBefore, and_true]
      refine ⟨h.word.beginBefore (by omega), Or.inr ?_⟩
      rw [Nat.zero_add, glyphColumns_reverse, ← h.word.columns_eq]
      omega
    · refine Or.inr ⟨hline, hblanks, ?_⟩
      simp only [Piece.push]
      omega

theorem Roomy.sound {columns : Nat} (h : wrap.Roomy width columns) : wrap.Sound width := by
  refine ⟨h.lines, h.line, h.word, ?_⟩
  rcases h.room with ⟨hempty, hword⟩ | ⟨hline, hblanks, hroom⟩
  · exact Or.inl ⟨hempty, h.word.beginBefore (by omega)⟩
  · exact Or.inr ⟨hline, hblanks, by omega⟩

/-- One more glyph keeps the rows fine. -/
theorem Sound.push (h : wrap.Sound width) (hglyph : glyph.IsPlain) :
    (wrap.push width glyph).Sound width := by
  rw [push_eq]
  split
  · exact h
  · have hroomy := (h.settleWord glyph).settleLine hglyph
    simp only
    split
    · exact hroomy.sound
    · exact hroomy.add hglyph.1

theorem sound_empty (width : Nat) : Sound width {} :=
  ⟨fun _ h => absurd h List.not_mem_nil, Piece.counted_empty, Piece.counted_empty,
    Or.inl ⟨rfl, trivial⟩⟩

theorem Sound.foldl (h : wrap.Sound width) (hglyphs : ∀ glyph ∈ glyphs, glyph.IsPlain) :
    (glyphs.foldl (Wrap.push width) wrap).Sound width := by
  induction glyphs generalizing wrap with
  | nil => exact h
  | cons glyph glyphs ih =>
      obtain ⟨hglyph, hmore⟩ := List.forall_mem_cons.mp hglyphs
      exact ih (h.push hglyph) hmore

theorem Sound.finish (h : wrap.Sound width) :
    ∀ row ∈ wrap.finish, BeginBefore (width + 1) 0 row := by
  have hnil : BeginBefore (width + 1) 0 [] := trivial
  have hfinished : ∀ blankOnly : Bool,
      ∀ row ∈ (if blankOnly then [] :: wrap.lines else wrap.lines),
        BeginBefore (width + 1) 0 row := by
    intro blankOnly
    cases blankOnly with
    | true => exact List.forall_mem_cons.mpr ⟨hnil, h.lines⟩
    | false => exact h.lines
  have hall : ∀ lines : List (List Glyph), (∀ row ∈ lines, BeginBefore (width + 1) 0 row) →
      ∀ row ∈ (if lines.isEmpty then [[]] else lines.reverse), BeginBefore (width + 1) 0 row := by
    intro lines hlines
    split
    · exact List.forall_mem_singleton.mpr hnil
    · exact fun row hrow => hlines row (List.mem_reverse.mp hrow)
  refine hall _ ?_
  split
  · exact hfinished _
  · exact List.forall_mem_cons.mpr ⟨h.closeWord.2, hfinished _⟩

end Wrap

/-- No glyph of a broken text begins more than one column behind the width, if each has one column
or two. -/
theorem beginBefore_of_mem_wrapGlyphs (h : ∀ glyph ∈ glyphs, glyph.IsPlain) :
    ∀ row ∈ wrapGlyphs width glyphs, BeginBefore (width + 1) 0 row :=
  ((Wrap.sound_empty width).foldl h).finish

namespace Paragraph

/-- A paragraph that breaks long lines leaves its area by one column at most, if each glyph has one
column or two. -/
theorem contained_of_plain (paragraph : Paragraph) (hwraps : paragraph.wraps = true) {text : Area}
    {stop : Nat} (hright : text.right < stop)
    (hplain : ∀ line ∈ paragraph.lines, ∀ glyph ∈ line.glyphs, glyph.IsPlain) :
    paragraph.Contained text stop := by
  refine Or.inr fun row hrow => ?_
  have hmem := List.mem_of_mem_take hrow
  simp only [rows, hwraps, if_true, List.mem_flatMap, List.mem_map] at hmem
  obtain ⟨_, ⟨line, hline, rfl⟩, hrow⟩ := hmem
  have hbegins : BeginBefore (text.width + 1) 0 row := by
    refine beginBefore_of_mem_wrapGlyphs (List.forall_mem_map.mpr fun glyph hglyph => ?_) row hrow
    exact hplain line hline glyph hglyph
  by_cases hfits : glyphColumns row ≤ text.width
  · exact beginBefore_of_fits _ (Nat.le_of_lt hright) hfits
  · have hblanks : blanks paragraph.alignment text.width (glyphColumns row) = 0 := by
      unfold blanks
      split <;> omega
    have hstop : text.width + 1 + text.x ≤ stop := by
      simp only [Area.right] at hright
      omega
    have hshift := hbegins.shift text.x hstop
    rwa [Nat.zero_add, ← Nat.add_zero text.x, ← hblanks] at hshift

end Paragraph

end HomeConsole
