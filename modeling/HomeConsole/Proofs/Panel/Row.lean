import HomeConsole.Panel.Overview
import HomeConsole.Proofs.Text.Fit

/-!
# Rows of the overview

A row sets some columns aside for the id and for the name, and the description gets the rest. The
cells are filled up to as many characters, and an id is never cut, so a cell has its columns only
if its text has as many columns as characters, or has too many characters and just these columns.
-/

namespace HomeConsole

theorem Span.columns_mk (text : String) (style : Style) :
    Span.columns ⟨text, style⟩ = HomeConsole.columns text := rfl

namespace Line

/-- The column in which a span of a line begins. -/
def start (line : Line) (i : Nat) : Nat := columns (line.take i)

@[simp]
theorem columns_nil : columns [] = 0 := rfl

@[simp]
theorem columns_cons (span : Span) (line : Line) :
    columns (span :: line) = span.columns + columns line := rfl

@[simp]
theorem start_zero (line : Line) : line.start 0 = 0 := rfl

@[simp]
theorem start_cons_succ (span : Span) (line : Line) (i : Nat) :
    start (span :: line) (i + 1) = span.columns + line.start i := rfl

theorem columns_append (line more : Line) :
    columns (line ++ more) = columns line + columns more := by
  induction line with
  | nil => exact (Nat.zero_add _).symm
  | cons span line ih => rw [List.cons_append, columns_cons, columns_cons, ih, Nat.add_assoc]

end Line

namespace Overview

variable {record : Record} {isChosen : Bool} {width : Nat}

/-! ## Parts of a row -/

theorem columns_rowFlag (record : Record) : (rowFlag record).columns = 1 := by
  unfold rowFlag
  split
  · rename_i active _
    cases active <;> decide +kernel
  · exact Columns.ofList_blanks 1

theorem columns_gap : columns "  " = 2 := Columns.ofList_blanks 2

theorem start_id (record : Record) (isChosen : Bool) (width : Nat) :
    (row record isChosen width).start 2 = 3 := by
  simp [row, columns_rowFlag, columns_gap, Span.columns_mk]

theorem start_name (record : Record) (isChosen : Bool) (width : Nat) :
    (row record isChosen width).start 4 = 5 + columns (idCell record) := by
  simp only [row, List.cons_append, Line.start_cons_succ, Line.start_zero, columns_rowFlag,
    columns_gap, Span.columns_mk]
  omega

theorem start_description {text : String} (h : record.description? = some text) (isChosen : Bool)
    (width : Nat) : (row record isChosen width).start 6 =
      7 + columns (idCell record) + columns (nameCell record width) := by
  simp only [row, rowDescription, h, List.cons_append, List.nil_append,
    Line.start_cons_succ, Line.start_zero, columns_rowFlag, columns_gap, Span.columns_mk]
  omega

theorem columns_row (record : Record) (isChosen : Bool) (width : Nat) :
    (row record isChosen width).columns = 5 + columns (idCell record) +
      columns (nameCell record width) + (rowDescription record isChosen width).columns := by
  simp only [row, Line.columns_append, Line.columns_cons, Line.columns_nil, columns_rowFlag,
    columns_gap, Span.columns_mk]
  omega

theorem columns_rowDescription {text : String} (h : record.description? = some text)
    (isChosen : Bool) (width : Nat) : (rowDescription record isChosen width).columns =
      2 + columns (truncate text (width - beforeDescription width)) := by
  simp only [rowDescription, h, Line.columns_cons, Line.columns_nil, columns_gap, Span.columns_mk,
    Nat.add_zero]

theorem rowDescription_of_none (h : record.description? = none) (isChosen : Bool) (width : Nat) :
    rowDescription record isChosen width = [] := by
  rw [rowDescription, h]

/-! ## The law of the columns -/

/-- With at least 19 columns the description begins within the row. -/
theorem beforeDescription_le (hwidth : 19 ≤ width) : beforeDescription width ≤ width := by
  simp only [beforeDescription, nameWidth]
  omega

/-- If id and name have their columns, a row is too wide only by its description. -/
theorem columns_row_le_iff (hwidth : 19 ≤ width) (hid : columns (idCell record) = 4)
    (hname : columns (nameCell record width) = nameWidth width) :
    (row record isChosen width).columns ≤ width ↔ ∀ text, record.description? = some text →
      columns (truncate text (width - beforeDescription width)) ≤
        width - beforeDescription width := by
  have hbefore := beforeDescription_le hwidth
  rw [columns_row, hid, hname]
  cases hdescription : record.description? with
  | none =>
      rw [rowDescription_of_none hdescription]
      simp only [beforeDescription, Line.columns_nil] at hbefore ⊢
      simp only [reduceCtorEq, false_implies, implies_true, iff_true]
      omega
  | some text =>
      rw [columns_rowDescription hdescription]
      simp only [Option.some.injEq, forall_eq']
      simp only [beforeDescription] at hbefore ⊢
      omega

/-- The records whose rows line up: the id has at most four characters, those of id and name take
one column each and join nothing, and the description makes no sign wide. -/
structure IsPlain (record : Record) : Prop where
  short : (record.id?.getD "?").length ≤ 4
  id : ∀ c ∈ (record.id?.getD "?").toList, Columns.IsUpright c
  name : ∀ c ∈ (record.name?.getD "(unnamed)").toList, Columns.IsUpright c
  description : ∀ text, record.description? = some text →
    ∀ c ∈ text.toList, isControl c = false ∧ ¬ Columns.IsWidener c

theorem IsPlain.fills_id (h : IsPlain record) : Fills 4 (record.id?.getD "?") :=
  Or.inl ⟨h.short, columns_of_upright h.id⟩

/-- The id of a row has its four columns, and the name its columns and its place, just when the
texts fill them. If they do, the description begins in its place, and the row fits just when the cut
description does. All this is so in the rows of all plain records. -/
theorem row_lines_up_iff (record : Record) (isChosen : Bool) (hwidth : 19 ≤ width) :
    let cells := row record isChosen width
    let id := record.id?.getD "?"
    let name := truncate (record.name?.getD "(unnamed)") (nameWidth width)
    let room := width - beforeDescription width
    (cells.start 2 = 3 ∧ (cells[2]?.map Span.columns = some 4 ↔ Fills 4 id)) ∧
    ((cells.start 4 = 9 ↔ Fills 4 id) ∧
      (cells[4]?.map Span.columns = some (nameWidth width) ↔ Fills (nameWidth width) name)) ∧
    (Fills 4 id → Fills (nameWidth width) name →
      (∀ text, record.description? = some text → cells.start 6 = beforeDescription width) ∧
      (cells.columns ≤ width ↔ ∀ text, record.description? = some text →
        columns (truncate text room) ≤ room)) ∧
    (IsPlain record → Fills 4 id ∧ Fills (nameWidth width) name ∧ cells.columns ≤ width) := by
  intro cells id name room
  have hid : columns (idCell record) = 4 ↔ Fills 4 id := columns_padStart_eq_iff
  have hname : columns (nameCell record width) = nameWidth width ↔ Fills (nameWidth width) name :=
    columns_padEnd_eq_iff
  have hstart : cells.start 4 = 5 + columns (idCell record) := start_name record isChosen width
  refine ⟨⟨start_id record isChosen width, ?_⟩, ⟨?_, ?_⟩, fun hidFills hnameFills => ⟨?_, ?_⟩,
    fun hplain => ?_⟩
  · rw [← hid]
    exact Option.some_inj
  · rw [← hid, hstart]
    omega
  · rw [← hname]
    exact Option.some_inj
  · intro text htext
    have hbegin := start_description htext isChosen width
    rw [hid.mpr hidFills, hname.mpr hnameFills] at hbegin
    simp only [cells, hbegin, beforeDescription]
    omega
  · exact columns_row_le_iff hwidth (hid.mpr hidFills) (hname.mpr hnameFills)
  · have hnameFills : Fills (nameWidth width) name := fills_truncate hplain.name
    refine ⟨hplain.fills_id, hnameFills, ?_⟩
    refine (columns_row_le_iff hwidth (hid.mpr hplain.fills_id) (hname.mpr hnameFills)).mpr ?_
    exact fun text htext => columns_truncate_le (hplain.description text htext)

/-- A name that is too long and a description in wide letters are cut. -/
theorem cut_texts_line_up :
    let record : Record := ⟨.object [("descr", .string "温度と湿度の記録"),
      ("id", .number (.integer 12)), ("name", .string "thermostat upstairs")]⟩
    19 ≤ 30 ∧ IsPlain record ∧ (row record true 30)[4]?.map Span.columns = some (nameWidth 30) ∧
      (row record true 30).columns ≤ 30 := by
  intro record
  have hwidth : 19 ≤ 30 := by decide
  have hid : record.id?.getD "?" = "12" := by decide
  have hname : record.name?.getD "(unnamed)" = "thermostat upstairs" := by decide
  have hdescription : record.description? = some "温度と湿度の記録" := by decide
  have hplain : IsPlain record := by
    refine ⟨by decide, ?_, ?_, fun text htext => ?_⟩
    · rw [hid]
      exact Columns.upright_of_printable (by simp)
    · rw [hname]
      exact Columns.upright_of_printable (by simp)
    · rw [hdescription] at htext
      obtain rfl := Option.some.inj htext
      exact Columns.forall_of_all (by decide)
  obtain ⟨-, ⟨-, hcolumns⟩, -, hlines⟩ := row_lines_up_iff record true hwidth
  obtain ⟨-, hfills, hfits⟩ := hlines hplain
  exact ⟨hwidth, hplain, hcolumns.mpr hfills, hfits⟩

/-- A name in wide letters is filled up by its characters, so the description is pushed to the
right. -/
theorem wide_name_moves_description :
    let record : Record := ⟨.object [("descr", .string "x"), ("id", .number (.integer 1)),
      ("name", .string "世界")]⟩
    (row record false 30)[4]?.map Span.columns = some 12 ∧ nameWidth 30 = 10 ∧
      (row record false 30).start 6 = 23 ∧ beforeDescription 30 = 21 := by
  intro record
  have hid : record.id?.getD "?" = "1" := by decide
  have hname : record.name?.getD "(unnamed)" = "世界" := by decide
  have hdescription : record.description? = some "x" := by decide
  have hdigit : columns "1" = 1 := columns_of_upright (Columns.upright_of_printable (by simp))
  have hwide : columns "世界" = 4 := columns_of_ideographs (Columns.forall_of_all (by decide))
  have hidCell : columns (idCell record) = 4 := by
    rw [idCell, hid, columns_padStart, hdigit]
    decide
  have hfits : columns "世界" ≤ nameWidth 30 := by
    rw [hwide]
    decide
  have hnameCell : columns (nameCell record 30) = 12 := by
    rw [nameCell, hname, truncate_of_fits hfits, columns_padEnd, hwide]
    decide
  refine ⟨congrArg some hnameCell, by decide, ?_, by decide⟩
  rw [start_description hdescription, hidCell, hnameCell]

end Overview

end HomeConsole
