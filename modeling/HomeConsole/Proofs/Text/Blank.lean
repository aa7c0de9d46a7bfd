import HomeConsole.Text.Blank
import Mathlib.Data.List.DropRight

/-!
# Blanks at the ends

Blanks around a text are trimmed away, whatever they are, and everything between the first and the
last character that is none is kept.
-/

namespace HomeConsole

variable {cs ds : List Char} {c : Char}

theorem trimEnd_eq_rdropWhile (cs : List Char) : trimEnd cs = cs.rdropWhile isBlank := rfl

theorem trimEnd_sublist (cs : List Char) : (trimEnd cs).Sublist cs :=
  (List.rdropWhile_prefix isBlank cs).sublist

theorem trimEnd_eq_nil (h : ∀ c ∈ cs, isBlank c = true) : trimEnd cs = [] :=
  List.rdropWhile_eq_nil_iff.mpr h

theorem trimEnd_eq_self_iff : trimEnd cs = cs ↔ ∀ c ∈ cs.getLast?, isBlank c = false := by
  rw [trimEnd_eq_rdropWhile, List.rdropWhile_eq_self_iff]
  constructor
  · intro h c hc
    obtain ⟨hne, rfl⟩ := List.mem_getLast?_eq_getLast hc
    exact Bool.eq_false_iff.mpr (h hne)
  · intro h hne
    exact Bool.not_eq_true _ ▸ h _ (List.getLast?_eq_some_getLast hne)

/-- A character that is no blank keeps everything before it. -/
theorem trimEnd_append (h : ∀ c ∈ cs.getLast?, isBlank c = false) :
    trimEnd (cs ++ ds) = cs ++ trimEnd ds := by
  have hself := trimEnd_eq_self_iff.mpr h
  simp only [trimEnd, List.reverse_append, List.dropWhile_append] at hself ⊢
  split
  · rename_i hempty
    rw [hself, List.isEmpty_iff.mp hempty, List.reverse_nil, List.append_nil]
  · rw [List.reverse_append, List.reverse_reverse]

theorem trimEnd_cons (h : isBlank c = false) : trimEnd (c :: cs) = c :: trimEnd cs := by
  have hlast : ∀ d ∈ [c].getLast?, isBlank d = false := by simpa using h
  exact trimEnd_append hlast

theorem trim_append_of_blank (h : ∀ c ∈ cs, isBlank c = true) : trim (cs ++ ds) = trim ds := by
  rw [trim, List.dropWhile_append_of_pos h, trim]

theorem trim_cons (h : isBlank c = false) : trim (c :: cs) = c :: trimEnd cs := by
  rw [trim, List.dropWhile_cons_of_neg (Bool.eq_false_iff.mp h), trimEnd_cons h]

/-- Only blanks are trimmed away. -/
theorem eq_append_trim (cs : List Char) : ∃ before after, cs = before ++ trim cs ++ after ∧
    (∀ c ∈ before, isBlank c = true) ∧ ∀ c ∈ after, isBlank c = true := by
  refine ⟨cs.takeWhile isBlank, (cs.dropWhile isBlank).rtakeWhile isBlank, ?_,
    fun _ hc => List.mem_takeWhile_imp hc, fun _ hc => List.mem_rtakeWhile_imp hc⟩
  rw [trim, trimEnd_eq_rdropWhile, List.append_assoc, List.rdropWhile_append_rtakeWhile,
    List.takeWhile_append_dropWhile]

/-- What begins and ends with characters that are no blanks is kept. -/
theorem trim_append (hne : cs ≠ []) (hfirst : ∀ c ∈ cs.head?, isBlank c = false)
    (hlast : ∀ c ∈ cs.getLast?, isBlank c = false) : trim (cs ++ ds) = cs ++ trimEnd ds := by
  obtain ⟨c, more, rfl⟩ := List.exists_cons_of_ne_nil hne
  have hc : isBlank c = false := hfirst c rfl
  rw [List.cons_append, trim_cons hc, ← trimEnd_cons hc, ← List.cons_append, trimEnd_append hlast]

end HomeConsole
