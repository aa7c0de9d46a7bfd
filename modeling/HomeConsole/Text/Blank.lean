/-!
# Blank characters

The characters with the White_Space property, and the removal of them from the ends of a text.
-/

namespace HomeConsole

/-- The White_Space property. -/
def isBlank (c : Char) : Bool :=
  let n := c.toNat
  (0x9 ≤ n && n ≤ 0xD) || n == 0x20 || n == 0x85 || n == 0xA0 || n == 0x1680 ||
    (0x2000 ≤ n && n ≤ 0x200A) || n == 0x2028 || n == 0x2029 || n == 0x202F || n == 0x205F ||
    n == 0x3000

/-- A text without the blanks at its end. -/
def trimEnd (cs : List Char) : List Char := (cs.reverse.dropWhile isBlank).reverse

/-- A text without the blanks at either end. -/
def trim (cs : List Char) : List Char := trimEnd (cs.dropWhile isBlank)

/-- A list cut at every place where an item satisfies `p`, which is dropped. There is always at
least one piece. -/
def splitWhere {α : Type} (p : α → Bool) : List α → List (List α)
  | [] => [[]]
  | c :: cs =>
    if p c then [] :: splitWhere p cs
    else
      match splitWhere p cs with
      | [] => [[c]]
      | piece :: pieces => (c :: piece) :: pieces

theorem splitWhere_ne_nil {α : Type} (p : α → Bool) (cs : List α) : splitWhere p cs ≠ [] := by
  cases cs with
  | nil => simp [splitWhere]
  | cons c cs =>
    simp only [splitWhere]
    split
    · simp
    · split <;> simp

/-- A list without cuts is one piece. -/
theorem splitWhere_eq_singleton {α : Type} {p : α → Bool} {cs : List α}
    (h : ∀ c ∈ cs, p c = false) : splitWhere p cs = [cs] := by
  induction cs with
  | nil => rfl
  | cons c cs ih =>
    have hc : p c = false := h c List.mem_cons_self
    simp [splitWhere, hc, ih fun d hd => h d (List.mem_cons_of_mem c hd)]

/-- A cut parts the pieces before it from those behind it. -/
theorem splitWhere_append {α : Type} {p : α → Bool} {d : α} (hd : p d = true) (cs ds : List α) :
    splitWhere p (cs ++ d :: ds) = splitWhere p cs ++ splitWhere p ds := by
  induction cs with
  | nil => simp [splitWhere, hd]
  | cons c cs ih =>
    rw [List.cons_append, splitWhere, splitWhere, ih]
    split
    · rfl
    · cases hs : splitWhere p cs with
      | nil => exact absurd hs (splitWhere_ne_nil p cs)
      | cons piece pieces => rfl

/-- The first piece ends at the first cut. -/
theorem splitWhere_append_cons {α : Type} {p : α → Bool} {cs : List α} {d : α}
    (h : ∀ c ∈ cs, p c = false) (hd : p d = true) (ds : List α) :
    splitWhere p (cs ++ d :: ds) = cs :: splitWhere p ds := by
  rw [splitWhere_append hd, splitWhere_eq_singleton h, List.singleton_append]

/-- No piece holds a cut. -/
theorem not_cut_of_mem_splitWhere {α : Type} {p : α → Bool} {cs piece : List α}
    (h : piece ∈ splitWhere p cs) : ∀ c ∈ piece, p c = false := by
  induction cs generalizing piece with
  | nil => simp [List.mem_singleton.mp h]
  | cons d cs ih =>
    unfold splitWhere at h
    split at h
    · rcases List.mem_cons.mp h with rfl | h
      · simp
      · exact ih h
    · rename_i hd
      cases hs : splitWhere p cs with
      | nil => exact absurd hs (splitWhere_ne_nil p cs)
      | cons first pieces =>
        simp only [hs] at h ih
        rcases List.mem_cons.mp h with rfl | h
        · intro c hc
          rcases List.mem_cons.mp hc with rfl | hc
          · simpa using hd
          · exact ih List.mem_cons_self c hc
        · exact ih (List.mem_cons_of_mem _ h)

end HomeConsole
