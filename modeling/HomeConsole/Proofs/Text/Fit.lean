import HomeConsole.Proofs.Text.Columns
import HomeConsole.Text.Fit

/-!
# Fitting texts

A text is cut where the columns of its characters are used up, each character on its own. What is
kept may take more columns than that in the text, and then the cut text is too wide. Texts filled up
with blanks get as many as they have too few characters, whatever columns these take.
-/

namespace HomeConsole

variable {text : String} {width : Nat} {cs kept : List Char}

/-! ## Cutting -/

/-- A beginning of a text that fits into some columns by a measure, and would not fit with one more
character of the text. -/
structure IsLongest (measure : List Char → Nat) (free : Nat) (cs kept : List Char) : Prop where
  begins : kept <+: cs
  fits : measure kept ≤ free
  full : ∀ c, kept ++ [c] <+: cs → free < measure (kept ++ [c])

/-- A cut is made by the columns of the characters on their own. -/
theorem isLongest_takeColumns (free : Nat) (cs : List Char) :
    IsLongest Columns.own free cs (takeColumns free cs) := by
  induction cs generalizing free with
  | nil =>
      refine ⟨List.prefix_rfl, Nat.zero_le free, fun c hc => ?_⟩
      simp [takeColumns] at hc
  | cons c cs ih =>
      rw [takeColumns]
      split
      · rename_i hfull
        refine ⟨List.nil_prefix, Nat.zero_le free, fun d hd => ?_⟩
        obtain ⟨rfl, -⟩ := List.cons_prefix_cons.mp hd
        rw [List.nil_append, Columns.own_cons]
        omega
      · rename_i hroom
        obtain ⟨hbegins, hfits, hfull⟩ := ih (free - (Columns.ofChar? c).getD 0)
        refine ⟨List.cons_prefix_cons.mpr ⟨rfl, hbegins⟩, ?_, fun d hd => ?_⟩
        · rw [Columns.own_cons]
          omega
        · have hmore := hfull d (List.cons_prefix_cons.mp hd).2
          rw [List.cons_append, Columns.own_cons]
          omega

/-- Where two measures agree on all beginnings of a text, they cut it in the same place. -/
theorem IsLongest.congr {measure measure' : List Char → Nat} {free : Nat}
    (h : IsLongest measure free cs kept)
    (hagree : ∀ beginning, beginning <+: cs → measure' beginning = measure beginning) :
    IsLongest measure' free cs kept := by
  refine ⟨h.begins, ?_, fun c hc => ?_⟩
  · rw [hagree kept h.begins]
    exact h.fits
  · rw [hagree _ hc]
    exact h.full c hc

/-! ## Dots -/

theorem isUpright_dot : Columns.IsUpright '.' :=
  Columns.isUpright_of_printable (by decide) (by decide)

theorem upright_dots (n : Nat) : ∀ c ∈ List.replicate n '.', Columns.IsUpright c := by
  intro c hc
  rw [List.eq_of_mem_replicate hc]
  exact isUpright_dot

theorem ofList_dots (n : Nat) : Columns.ofList (List.replicate n '.') = n := by
  rw [Columns.ofList_of_upright (upright_dots n), List.length_replicate]

theorem ofList_append_dots (cs : List Char) :
    Columns.ofList (cs ++ ['.', '.', '.']) = Columns.ofList cs + 3 := by
  have hdots : (Columns.scan ['.', '.', '.']).2 = .of .plain :=
    congrArg Prod.snd (Columns.scan_of_steady fun c hc => (upright_dots 3 c hc).1)
  rw [Columns.ofList_append hdots]
  exact congrArg _ (ofList_dots 3)

/-! ## Truncating -/

theorem truncate_of_fits (h : columns text ≤ width) : truncate text width = text := if_pos h

theorem truncate_of_narrow (h : width < columns text) (hwidth : width ≤ 3) :
    truncate text width = String.ofList (List.replicate width '.') := by
  rw [truncate, if_neg (Nat.not_le_of_lt h), if_pos hwidth]

theorem truncate_of_wide (h : width < columns text) (hwidth : 3 < width) :
    truncate text width =
      String.ofList (takeColumns (width - 3) text.toList ++ ['.', '.', '.']) := by
  rw [truncate, if_neg (Nat.not_le_of_lt h), if_neg (Nat.not_le_of_lt hwidth)]

theorem columns_ofList (cs : List Char) : columns (String.ofList cs) = Columns.ofList cs := by
  rw [columns, String.toList_ofList]

theorem columns_truncate_of_narrow (h : width < columns text) (hwidth : width ≤ 3) :
    columns (truncate text width) = width := by
  rw [truncate_of_narrow h hwidth, columns_ofList, ofList_dots]

theorem columns_truncate_of_wide (h : width < columns text) (hwidth : 3 < width) :
    columns (truncate text width) =
      Columns.ofList (takeColumns (width - 3) text.toList) + 3 := by
  rw [truncate_of_wide h hwidth, columns_ofList, ofList_append_dots]

/-- Only controls and selectors that make signs wide let a truncated text be too wide. -/
theorem columns_truncate_le
    (h : ∀ c ∈ text.toList, isControl c = false ∧ ¬ Columns.IsWidener c) :
    columns (truncate text width) ≤ width := by
  by_cases hfits : columns text ≤ width
  · rw [truncate_of_fits hfits]
    exact hfits
  · have hlong := Nat.lt_of_not_le hfits
    by_cases hwidth : width ≤ 3
    · exact Nat.le_of_eq (columns_truncate_of_narrow hlong hwidth)
    · have hcut := isLongest_takeColumns (width - 3) text.toList
      have hown := Columns.ofList_le_own fun c hc => h c (hcut.begins.subset hc)
      have hkept := hcut.fits
      rw [columns_truncate_of_wide hlong (Nat.lt_of_not_le hwidth)]
      omega

/-! ## Filling up -/

theorem columns_padEnd (text : String) (n : Nat) :
    columns (padEnd text n) = columns text + (n - text.length) := by
  rw [columns, padEnd, String.toList_append, String.toList_ofList, Columns.ofList_append_blanks,
    columns]

theorem columns_padStart (text : String) (n : Nat) :
    columns (padStart text n) = columns text + (n - text.length) := by
  rw [columns, padStart, String.toList_append, String.toList_ofList, Columns.ofList_blanks_append,
    columns, Nat.add_comm]

/-- A text that takes just some columns when it is filled up to as many characters. -/
def Fills (width : Nat) (text : String) : Prop :=
  (text.length ≤ width ∧ columns text = text.length) ∨
    (width < text.length ∧ columns text = width)

theorem columns_padEnd_eq_iff : columns (padEnd text width) = width ↔ Fills width text := by
  rw [columns_padEnd, Fills]
  omega

theorem columns_padStart_eq_iff : columns (padStart text width) = width ↔ Fills width text := by
  rw [columns_padStart, Fills]
  omega

theorem columns_of_upright (h : ∀ c ∈ text.toList, Columns.IsUpright c) :
    columns text = text.length := by
  rw [columns, Columns.ofList_of_upright h, String.length_toList]

theorem columns_of_ideographs (h : ∀ c ∈ text.toList, within Columns.ideographs c.toNat = true) :
    columns text = 2 * text.length := by
  rw [columns, Columns.ofList_of_ideographs h, String.length_toList]

/-- A text of upright characters fills the columns to which it was cut. -/
theorem fills_truncate (h : ∀ c ∈ text.toList, Columns.IsUpright c) :
    Fills width (truncate text width) := by
  have hupright : ∀ c ∈ (truncate text width).toList, Columns.IsUpright c := by
    intro c hc
    by_cases hfits : columns text ≤ width
    · rw [truncate_of_fits hfits] at hc
      exact h c hc
    · have hlong := Nat.lt_of_not_le hfits
      by_cases hwidth : width ≤ 3
      · rw [truncate_of_narrow hlong hwidth, String.toList_ofList] at hc
        exact upright_dots width c hc
      · rw [truncate_of_wide hlong (Nat.lt_of_not_le hwidth), String.toList_ofList] at hc
        rcases List.mem_append.mp hc with hkept | hdots
        · exact h c ((isLongest_takeColumns _ _).begins.subset hkept)
        · exact upright_dots 3 c hdots
  have hfits : columns (truncate text width) ≤ width := columns_truncate_le fun c hc =>
    ⟨(h c hc).1.1, Columns.not_isWidener_of_steady (h c hc).1⟩
  have hcolumns := columns_of_upright hupright
  exact Or.inl ⟨hcolumns ▸ hfits, hcolumns⟩

/-! ## The law of truncating -/

/-- A text that fits is left as it is. One that does not becomes dots where there is no room for
more, and else its longest beginning whose characters on their own leave room for three dots, with
these behind it. This takes no more columns than there are just when what is kept takes none more
than its characters do, so in every text without controls and selectors that make signs wide. And
where the characters of each beginning take its columns, the cut is the longest by its columns. -/
theorem truncated_text_fits_iff (text : String) (width : Nat) :
    (columns text ≤ width → truncate text width = text) ∧
    (width < columns text → width ≤ 3 →
      truncate text width = String.ofList (List.replicate width '.') ∧
        columns (truncate text width) = width) ∧
    (width < columns text → 3 < width → ∃ kept,
      IsLongest Columns.own (width - 3) text.toList kept ∧
        (truncate text width).toList = kept ++ ['.', '.', '.'] ∧
        (columns (truncate text width) ≤ width ↔ Columns.ofList kept ≤ width - 3) ∧
        ((∀ cs, cs <+: text.toList → Columns.ofList cs = Columns.own cs) →
          IsLongest Columns.ofList (width - 3) text.toList kept)) ∧
    ((∀ c ∈ text.toList, isControl c = false ∧ ¬ Columns.IsWidener c) →
      columns (truncate text width) ≤ width) := by
  refine ⟨truncate_of_fits, fun hlong hnarrow => ?_, fun hlong hwide => ?_, columns_truncate_le⟩
  · exact ⟨truncate_of_narrow hlong hnarrow, columns_truncate_of_narrow hlong hnarrow⟩
  · have hcut := isLongest_takeColumns (width - 3) text.toList
    refine ⟨_, hcut, ?_, ?_, hcut.congr⟩
    · rw [truncate_of_wide hlong hwide, String.toList_ofList]
    · rw [columns_truncate_of_wide hlong hwide]
      omega

/-- Signs of two columns are cut by their columns, and the third one does not fit any more. -/
theorem wide_letters_fit :
    let text := "日本語テキスト"
    (∀ c ∈ text.toList, isControl c = false ∧ ¬ Columns.IsWidener c) ∧
      columns (truncate text 8) ≤ 8 ∧
      ∃ kept, IsLongest Columns.ofList 5 text.toList kept ∧
        (truncate text 8).toList = kept ++ ['.', '.', '.'] := by
  intro text
  have hletters : ∀ c ∈ text.toList, within Columns.ideographs c.toNat = true :=
    Columns.forall_of_all (by decide)
  have hsteady : ∀ c ∈ text.toList, Columns.IsSteady c := fun c hc =>
    Columns.isSteady_ideograph (hletters c hc)
  have hlong : 8 < columns text := by
    rw [columns_of_ideographs hletters]
    decide
  have hplain : ∀ c ∈ text.toList, isControl c = false ∧ ¬ Columns.IsWidener c := fun c hc =>
    ⟨(hsteady c hc).1, Columns.not_isWidener_of_steady (hsteady c hc)⟩
  obtain ⟨-, -, hcut, hfits⟩ := truncated_text_fits_iff text 8
  obtain ⟨kept, -, hkept, -, hlongest⟩ := hcut hlong (by decide)
  refine ⟨hplain, hfits hplain, kept, hlongest fun cs hcs => ?_, hkept⟩
  exact Columns.ofList_of_steady fun c hc => hsteady c (hcs.subset hc)

/-- Hearts that a selector makes wide take two columns each, but are counted with one: four of them
are kept where there is room for two. -/
theorem hearts_are_too_wide :
    let text := "\u2764\uFE0F\u2764\uFE0F\u2764\uFE0F\u2764\uFE0F\u2764\uFE0F"
    truncate text 7 = "\u2764\uFE0F\u2764\uFE0F\u2764\uFE0F\u2764\uFE0F..." ∧
      7 < columns (truncate text 7) := by
  decide +kernel

end HomeConsole
