import Mathlib.Data.List.Forall2
import HomeConsole.Panel.Detail
import HomeConsole.Proofs.Panel.Row

/-!
# The listing of the members

The names are filled up to as many characters as the longest one has, so the values begin in one
column just when every name takes the same number of columns more, or less, than it has characters.
-/

namespace HomeConsole.Detail

variable {members : List (String × Json)}

/-! ## The greatest of some numbers -/

theorem foldl_max_eq (ns : List Nat) : ns.foldl max 0 = ns.max?.getD 0 := by
  rw [List.foldl_max, Nat.zero_max]

theorem le_foldl_max {ns : List Nat} {n : Nat} (h : n ∈ ns) : n ≤ ns.foldl max 0 := by
  rw [foldl_max_eq]
  exact List.le_max?_getD_of_mem h

theorem foldl_max_mem {ns : List Nat} (h : ns ≠ []) : ns.foldl max 0 ∈ ns := by
  rw [foldl_max_eq]
  cases hmax : ns.max? with
  | none => exact absurd (List.max?_eq_none_iff.mp hmax) h
  | some n => exact List.max?_mem hmax

/-! ## Names -/

/-- The columns of the widest name. -/
def nameColumns (members : List (String × Json)) : Nat :=
  (members.map fun member => columns member.1).foldl max 0

theorem length_le_nameWidth {member : String × Json} (h : member ∈ members) :
    member.1.length ≤ nameWidth members :=
  le_foldl_max (List.mem_map_of_mem h)

theorem columns_le_nameColumns {member : String × Json} (h : member ∈ members) :
    columns member.1 ≤ nameColumns members :=
  le_foldl_max (List.mem_map_of_mem h)

/-- Whether each name takes as many columns more than it has characters as each other name. -/
def IsEven (members : List (String × Json)) : Prop :=
  ∀ member ∈ members, ∀ other ∈ members,
    columns member.1 + other.1.length = columns other.1 + member.1.length

/-- Then the widest name exceeds the longest one by as much. -/
theorem IsEven.columns_eq (h : IsEven members) {member : String × Json}
    (hmember : member ∈ members) :
    columns member.1 + nameWidth members = nameColumns members + member.1.length := by
  have hne : ∀ f : String × Json → Nat, members.map f ≠ [] := fun f hnil =>
    List.ne_nil_of_mem hmember (List.map_eq_nil_iff.mp hnil)
  obtain ⟨longest, hlongest, hlength⟩ : ∃ longest ∈ members, longest.1.length = nameWidth members :=
    List.mem_map.mp (foldl_max_mem (hne _))
  obtain ⟨widest, hwidest, hcolumns⟩ : ∃ widest ∈ members, columns widest.1 = nameColumns members :=
    List.mem_map.mp (foldl_max_mem (hne _))
  have hmost := columns_le_nameColumns hlongest
  have hlong := length_le_nameWidth hwidest
  have hbetween := h widest hwidest longest hlongest
  have hsame := h member hmember longest hlongest
  omega

/-! ## Lines -/

theorem fieldLines_object (members : List (String × Json)) :
    fieldLines ⟨.object members⟩ = members.map (memberLine (nameWidth members)) := rfl

theorem columns_blank_append (text : String) : columns (" " ++ text) = 1 + columns text := by
  rw [columns, String.toList_append]
  exact Columns.ofList_blanks_append 1 text.toList

/-- The value of a member begins behind its name, as many blanks as the name has too few characters,
and three more. -/
theorem start_memberLine (width : Nat) (member : String × Json) :
    (memberLine width member).start 2 =
      3 + columns member.1 + (width - member.1.length) := by
  simp only [memberLine, Line.start_cons_succ, Line.start_zero, Span.columns_mk,
    columns_blank_append, columns_padEnd, Overview.columns_gap]
  omega

/-- Names of upright characters take as many columns as they have characters. -/
theorem isEven_of_upright
    (h : ∀ member ∈ members, ∀ c ∈ member.1.toList, Columns.IsUpright c) : IsEven members := by
  intro member hmember other hother
  rw [columns_of_upright (h member hmember), columns_of_upright (h other hother), Nat.add_comm]

/-- An object is listed in one line for each member, in their order, with the name, two blanks and
the value. The values begin in one column just when each name takes as many columns more than it has
characters as each other one, and then it is the third column behind the widest name. So it is where
all characters of the names take one column and join nothing. -/
theorem values_line_up_iff (members : List (String × Json)) :
    let lines := fieldLines ⟨.object members⟩
    List.Forall₂ (fun member line =>
      line.map Span.text =
        [" " ++ padEnd member.1 (nameWidth members), "  ", (valueSpan member.2).text] ∧
      line.start 2 = 3 + columns member.1 + (nameWidth members - member.1.length)) members lines ∧
    ((∀ line ∈ lines, line.start 2 = 3 + nameColumns members) ↔ IsEven members) ∧
    ((∀ line ∈ lines, ∀ other ∈ lines, line.start 2 = other.start 2) ↔ IsEven members) ∧
    ((∀ member ∈ members, ∀ c ∈ member.1.toList, Columns.IsUpright c) → IsEven members) := by
  intro lines
  have hlines : lines = members.map (memberLine (nameWidth members)) := fieldLines_object members
  refine ⟨?_, ?_, ?_, isEven_of_upright⟩
  · rw [hlines, List.forall₂_map_right_iff, List.forall₂_same]
    exact fun member _ => ⟨rfl, start_memberLine _ member⟩
  · simp only [hlines, List.forall_mem_map, start_memberLine]
    constructor
    · intro h member hmember other hother
      have hstart := h member hmember
      have hstart' := h other hother
      have hlong := length_le_nameWidth hmember
      have hlong' := length_le_nameWidth hother
      omega
    · intro h member hmember
      have hcolumns := h.columns_eq hmember
      have hlong := length_le_nameWidth hmember
      omega
  · simp only [hlines, List.forall_mem_map, start_memberLine]
    refine forall₂_congr fun member hmember => forall₂_congr fun other hother => ?_
    have hlong := length_le_nameWidth hmember
    have hlong' := length_le_nameWidth hother
    omega

/-- The values of three names behind the longest one. -/
theorem short_names_line_up :
    let members : List (String × Json) :=
      [("Active", .bool true), ("id", .number (.integer 7)), ("name", .string "世界")]
    (∀ member ∈ members, ∀ c ∈ member.1.toList, Columns.IsUpright c) ∧
      ∀ line ∈ fieldLines ⟨.object members⟩, line.start 2 = 9 := by
  intro members
  have hupright : ∀ member ∈ members, ∀ c ∈ member.1.toList, Columns.IsUpright c := by
    simp only [members, List.forall_mem_cons, List.not_mem_nil, false_implies, implies_true,
      and_true]
    refine ⟨?_, ?_, ?_⟩
    all_goals exact Columns.upright_of_printable (by simp)
  have hwidest : nameColumns members = 6 := by
    rw [nameColumns, List.map_congr_left fun member h => columns_of_upright (hupright member h)]
    decide
  obtain ⟨-, hstart, -, heven⟩ := values_line_up_iff members
  rw [hwidest] at hstart
  exact ⟨hupright, hstart.mpr (heven hupright)⟩

/-- A wide name has one character like the name before it, but takes one column more. -/
theorem wide_name_moves_value :
    let members : List (String × Json) :=
      [("a", .number (.integer 1)), ("世", .number (.integer 2))]
    (fieldLines ⟨.object members⟩).map (Line.start · 2) = [4, 5] ∧ nameColumns members = 2 := by
  intro members
  have hnarrow : columns "a" = 1 := columns_of_upright (Columns.upright_of_printable (by simp))
  have hwide : columns "世" = 2 := columns_of_ideographs (Columns.forall_of_all (by decide))
  constructor
  · simp only [fieldLines_object, members, List.map_cons, List.map_nil, start_memberLine, hnarrow,
      hwide]
    decide
  · simp only [nameColumns, members, List.map_cons, List.map_nil, hnarrow, hwide]
    decide

end HomeConsole.Detail
