import HomeConsole.Text.Numeral
import Mathlib.Data.List.Basic

/-!
# Numerals that are read

A text is read as a number of 64 bits just where it is digits, perhaps behind a plus sign, and their
number is below the bound. Leading zeros may be as many as they like.
-/

namespace HomeConsole.Numeral

variable {cs : List Char} {m n : Nat}

/-- More digits make no smaller number. -/
theorem le_ofDigitChars (cs : List Char) (m : Nat) : m ≤ Nat.ofDigitChars 10 cs m := by
  induction cs generalizing m with
  | nil => exact Nat.le_refl m
  | cons c cs ih =>
      rw [Nat.ofDigitChars_cons]
      exact Nat.le_trans (by omega) (ih _)

/-- A text stands for a number: digits that make the number, perhaps behind a plus sign. -/
def Spells (cs : List Char) (n : Nat) : Prop :=
  ∃ digits, (cs = digits ∨ cs = '+' :: digits) ∧ digits ≠ [] ∧
    (∀ c ∈ digits, c.isDigit = true) ∧ Nat.ofDigitChars 10 digits 0 = n ∧ n < Nat.pow 2 64

/-- A plus sign or a digit comes first, and a digit last. -/
theorem Spells.ends (h : Spells cs n) : cs ≠ [] ∧
    (∀ c ∈ cs.head?, c = '+' ∨ c.isDigit = true) ∧ ∀ c ∈ cs.getLast?, c.isDigit = true := by
  obtain ⟨digits, hcs, hne, hdigits, -, -⟩ := h
  have hfirst : ∀ c ∈ digits.head?, c.isDigit = true :=
    fun c hc => hdigits c (List.mem_of_mem_head? hc)
  have hlast : ∀ c ∈ digits.getLast?, c.isDigit = true :=
    fun c hc => hdigits c (List.mem_of_mem_getLast? hc)
  rcases hcs with rfl | rfl
  · exact ⟨hne, fun c hc => Or.inr (hfirst c hc), hlast⟩
  · refine ⟨List.cons_ne_nil _ _, fun c hc => Or.inl (by simpa using hc.symm), ?_⟩
    rwa [List.getLast?_cons_of_ne_nil hne]

theorem digitsFrom_eq_ok (hm : m < bound) : digitsFrom m cs = .ok n ↔
    (∀ c ∈ cs, c.isDigit = true) ∧ Nat.ofDigitChars 10 cs m = n ∧ n < bound := by
  induction cs generalizing m with
  | nil =>
      simp only [digitsFrom, Except.ok.injEq, List.not_mem_nil, false_implies, implies_true,
        true_and, Nat.ofDigitChars_nil]
      exact ⟨fun h => ⟨h, h ▸ hm⟩, fun h => h.1⟩
  | cons c cs ih =>
      rw [digitsFrom, Nat.ofDigitChars_cons, Nat.mul_comm 10 m, List.forall_mem_cons]
      cases hc : c.isDigit with
      | false => simp
      | true =>
          simp only [Bool.not_true, Bool.false_eq_true, if_false, true_and]
          split
          · rename_i hfits
            exact ih hfits
          · rename_i hbig
            refine ⟨fun h => (by cases h), ?_⟩
            -- the number only grows with the digits that follow
            rintro ⟨-, rfl, hn⟩
            exact absurd (Nat.lt_of_le_of_lt (le_ofDigitChars cs _) hn) hbig

theorem digits_eq_ok : digits cs = .ok n ↔ cs ≠ [] ∧ (∀ c ∈ cs, c.isDigit = true) ∧
    Nat.ofDigitChars 10 cs 0 = n ∧ n < bound := by
  cases cs with
  | nil => simp [digits]
  | cons c cs =>
      rw [digits, digitsFrom_eq_ok (by decide)]
      exact (and_iff_right (List.cons_ne_nil c cs)).symm

/-- What is read is what stands for the number. -/
theorem read_eq_ok : read cs = .ok n ↔ Spells cs n := by
  have hbound : bound = Nat.pow 2 64 := rfl
  constructor
  · intro h
    unfold read at h
    split at h
    · cases h
    · rename_i digits
      obtain ⟨hne, hdigits, hn, hfits⟩ := digits_eq_ok.mp h
      exact ⟨digits, Or.inr rfl, hne, hdigits, hn, hbound ▸ hfits⟩
    · obtain ⟨hne, hdigits, hn, hfits⟩ := digits_eq_ok.mp h
      exact ⟨cs, Or.inl rfl, hne, hdigits, hn, hbound ▸ hfits⟩
  · rintro ⟨digits, hcs, hne, hdigits, hn, hfits⟩
    have hread : Numeral.digits digits = .ok n := digits_eq_ok.mpr ⟨hne, hdigits, hn, hbound ▸ hfits⟩
    rcases hcs with rfl | rfl
    · unfold read
      split
      · exact absurd rfl hne
      · exact absurd (hdigits '+' List.mem_cons_self) (by decide)
      · exact hread
    · exact hread

end HomeConsole.Numeral
