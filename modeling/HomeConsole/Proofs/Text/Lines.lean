import HomeConsole.Text.Blank
import HomeConsole.Text.Lines

/-!
# The lines of a text

A text whose last line is not ended and that holds no carriage return is cut into its lines at the
line breaks alone, so the lines with a break between any two of them are the text again.
-/

namespace HomeConsole

variable {α : Type} {cs current : List Char} {text : String}

/-! ## Cuts -/

/-- There is one piece more than there are cuts. -/
theorem length_splitWhere (p : α → Bool) (xs : List α) :
    (splitWhere p xs).length = xs.countP p + 1 := by
  induction xs with
  | nil => rfl
  | cons x xs ih =>
      rw [splitWhere]
      split
      · rename_i hx
        rw [List.length_cons, ih, List.countP_cons_of_pos hx]
      · rename_i hx
        rw [List.countP_cons_of_neg hx, ← ih]
        cases hs : splitWhere p xs with
        | nil => exact absurd hs (splitWhere_ne_nil p xs)
        | cons piece pieces => rfl

/-- The pieces with the cuts between them are the list again. -/
theorem intercalate_splitWhere [BEq α] [LawfulBEq α] (d : α) (xs : List α) :
    [d].intercalate (splitWhere (· == d) xs) = xs := by
  induction xs with
  | nil => rfl
  | cons x xs ih =>
      rw [splitWhere]
      cases hs : splitWhere (· == d) xs with
      | nil => exact absurd hs (splitWhere_ne_nil _ xs)
      | cons piece pieces =>
          rw [hs] at ih
          split
          · rename_i hx
            rw [List.intercalate_cons_cons, ih, eq_of_beq hx]
            rfl
          · cases pieces with
            | nil => rw [← ih, List.intercalate_singleton, List.intercalate_singleton]
            | cons next pieces =>
                rw [← ih, List.intercalate_cons_cons, List.intercalate_cons_cons]
                rfl

/-! ## Lines -/

theorem linesOf_go (hcurrent : '\r' ∉ current) (hcs : '\r' ∉ cs) (hlast : cs.getLast? ≠ some '\n')
    (hne : current ≠ [] ∨ cs ≠ []) : ∃ piece pieces, splitWhere (· == '\n') cs = piece :: pieces ∧
      linesOf.go current cs =
        String.ofList (current.reverse ++ piece) :: pieces.map String.ofList := by
  fun_induction linesOf.go current cs with
  | case1 current hempty => exact absurd (List.isEmpty_iff.mp hempty) (hne.resolve_right (by simp))
  | case2 current hempty => exact ⟨[], [], rfl, by rw [List.append_nil, List.map_nil]⟩
  | case3 current cs line ih =>
      -- a carriage return in front of the break would be dropped, but there is none
      have hline : line = current := by
        unfold line
        split
        · exact absurd List.mem_cons_self hcurrent
        · rfl
      have hmore : cs ≠ [] := by
        rintro rfl
        exact hlast rfl
      rw [List.getLast?_cons_of_ne_nil hmore] at hlast
      obtain ⟨piece, pieces, hsplit, hgo⟩ := ih List.not_mem_nil
        (List.not_mem_of_not_mem_cons hcs) hlast (Or.inr hmore)
      refine ⟨[], piece :: pieces, by rw [splitWhere, hsplit]; rfl, ?_⟩
      rw [hgo, hline, List.append_nil]
      rfl
  | case4 current c cs hc ih =>
      have hcr : c ≠ '\r' := fun h => hcs (h ▸ List.mem_cons_self)
      have hkeep : '\r' ∉ c :: current := by
        simp [hcr.symm, hcurrent]
      have hend : cs.getLast? ≠ some '\n' := by
        cases cs with
        | nil => simp
        | cons d ds => rwa [List.getLast?_cons_cons] at hlast
      obtain ⟨piece, pieces, hsplit, hgo⟩ := ih hkeep (List.not_mem_of_not_mem_cons hcs) hend
        (Or.inl (List.cons_ne_nil _ _))
      have hcut : (c == '\n') = false := beq_eq_false_iff_ne.mpr hc
      refine ⟨c :: piece, pieces, by rw [splitWhere, hsplit, hcut]; rfl, ?_⟩
      rw [hgo, List.reverse_cons, List.append_assoc]
      rfl

/-- Without carriage returns and a break at its end, a text is cut at its line breaks. -/
theorem linesOf_eq_splitWhere (hne : text ≠ "") (hcr : '\r' ∉ text.toList)
    (hlast : text.toList.getLast? ≠ some '\n') :
    linesOf text = (splitWhere (· == '\n') text.toList).map String.ofList := by
  have hchars : text.toList ≠ [] := fun h => hne (String.toList_eq_nil_iff.mp h)
  obtain ⟨piece, pieces, hsplit, hgo⟩ := linesOf_go List.not_mem_nil hcr hlast (Or.inr hchars)
  rw [linesOf, hgo, hsplit]
  rfl

end HomeConsole
