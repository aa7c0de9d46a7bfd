import HomeConsole.Text.Columns

/-!
# Tables of ranges

A search in a table of ranges finds only numbers that lie in one of them. If the ranges are in
ascending order it finds all of these, so a table then stands for just the numbers in its ranges.
-/

namespace HomeConsole

variable {n : Nat}

/-! ## Lists of ranges -/

/-- Whether no number lies in a range of both lists. -/
def apart (s t : List (Nat × Nat)) : Bool := s.all fun r => t.all fun r' => r.2 < r'.1 || r'.2 < r.1

/-- Whether each range of a list lies in one of another list. -/
def covered (s t : List (Nat × Nat)) : Bool :=
  s.all fun r => t.any fun r' => r'.1 ≤ r.1 && r.2 ≤ r'.2

theorem within_iff {ranges : List (Nat × Nat)} :
    within ranges n = true ↔ ∃ r ∈ ranges, r.1 ≤ n ∧ n ≤ r.2 := by
  simp [within]

theorem within_of_covered {s t : List (Nat × Nat)} (h : covered s t = true)
    (hs : within s n = true) : within t n = true := by
  obtain ⟨r, hr, hrn⟩ := within_iff.mp hs
  obtain ⟨r', hr', hcover⟩ := List.any_eq_true.mp (List.all_eq_true.mp h r hr)
  simp only [Bool.and_eq_true, decide_eq_true_eq] at hcover
  exact within_iff.mpr ⟨r', hr', by omega, by omega⟩

theorem not_within_of_apart {s t : List (Nat × Nat)} (h : apart s t = true)
    (hs : within s n = true) : within t n = false := by
  rw [Bool.eq_false_iff]
  intro ht
  obtain ⟨r, hr, hrn⟩ := within_iff.mp hs
  obtain ⟨r', hr', hrn'⟩ := within_iff.mp ht
  have hapart := List.all_eq_true.mp (List.all_eq_true.mp h r hr) r' hr'
  simp only [Bool.or_eq_true, decide_eq_true_eq] at hapart
  omega

/-! ## Searching a table -/

namespace Ranges

variable {table : Ranges} {c : Char}

theorem within_of_search {low high : Nat} (h : table.search n low high = true) :
    within table.toList n = true := by
  fun_induction Ranges.search table n low high with
  | case1 low high hlt middle hnone => cases h
  | case2 low high hlt middle first last hsome hbefore ih => exact ih h
  | case3 low high hlt middle first last hsome hbefore hbehind ih => exact ih h
  | case4 low high hlt middle first last hsome hbefore hbehind =>
      have hmem : (first, last) ∈ table.toList :=
        Array.mem_toList_iff.mpr (Array.mem_of_getElem? hsome)
      exact within_iff.mpr ⟨_, hmem, by omega, by omega⟩
  | case5 low high hge => cases h

theorem within_of_has (h : table.has c = true) : within table.toList c.toNat = true :=
  within_of_search h

/-- The ranges are in ascending order, without overlaps. -/
def IsSorted (table : Ranges) : Prop :=
  table.toList.Pairwise fun r r' => r.1 ≤ r.2 ∧ r.2 < r'.1

instance (table : Ranges) : Decidable table.IsSorted :=
  inferInstanceAs (Decidable (List.Pairwise _ _))

theorem IsSorted.lt (h : table.IsSorted) {i j : Nat} {r r' : Nat × Nat} (hi : table[i]? = some r)
    (hj : table[j]? = some r') (hlt : i < j) : r.1 ≤ r.2 ∧ r.2 < r'.1 := by
  obtain ⟨hsize, rfl⟩ := Array.getElem?_eq_some_iff.mp hi
  obtain ⟨hsize', rfl⟩ := Array.getElem?_eq_some_iff.mp hj
  exact List.pairwise_iff_getElem.mp h i j hsize hsize' hlt

/-- A search among the ranges of a sorted table does not miss the one with the number. -/
theorem IsSorted.search (h : table.IsSorted) {low high i : Nat} {r : Nat × Nat}
    (hi : table[i]? = some r) (hn : r.1 ≤ n ∧ n ≤ r.2) (hlow : low ≤ i) (hhigh : i < high)
    (hsize : high ≤ table.size) : table.search n low high = true := by
  fun_induction Ranges.search table n low high with
  | case1 low high hlt middle hnone =>
      have hbound := Array.getElem?_eq_none_iff.mp hnone
      omega
  | case2 low high hlt middle first last hsome hbefore ih =>
      -- the number lies before the range in the middle, so its own range does too
      refine ih hlow (Nat.lt_of_not_le fun hle => ?_) (by omega)
      rcases Nat.lt_or_eq_of_le hle with hlater | heq
      · have hbetween := h.lt hsome hi hlater
        omega
      · obtain rfl := Option.some.inj ((heq ▸ hsome).symm.trans hi)
        omega
  | case3 low high hlt middle first last hsome hbefore hbehind ih =>
      refine ih (Nat.lt_of_not_le fun hle => ?_) hhigh hsize
      rcases Nat.lt_or_eq_of_le hle with hearlier | heq
      · have hbetween := h.lt hi hsome hearlier
        omega
      · obtain rfl := Option.some.inj ((heq ▸ hi).symm.trans hsome)
        omega
  | case4 => rfl
  | case5 low high hge => omega

/-- A sorted table has just the characters in its ranges. -/
theorem IsSorted.has_eq (h : table.IsSorted) (c : Char) :
    table.has c = within table.toList c.toNat := by
  refine Bool.eq_iff_iff.mpr ⟨within_of_has, fun hc => ?_⟩
  obtain ⟨r, hr, hrn⟩ := within_iff.mp hc
  obtain ⟨i, hi⟩ := List.mem_iff_getElem?.mp hr
  rw [Array.getElem?_toList] at hi
  have hbound := (Array.getElem?_eq_some_iff.mp hi).1
  exact h.search hi hrn (Nat.zero_le i) hbound (Nat.le_refl _)

end Ranges

end HomeConsole
