/-!
# Windows on a list

Which rows of a list are seen when only some fit. The window moves no further than it must to hold
the chosen row.
-/

namespace HomeConsole

/-- A run of rows: the first one, and how many there are. -/
structure Window where
  first : Nat
  size : Nat
deriving DecidableEq

namespace Window

/-- The rows in the window. -/
def rows (window : Window) : List Nat := List.range' window.first window.size

/-- The window on a list of `count` rows, of which `height` fit, when it last began at `first`. -/
def around (chosen : Option Nat) (first count height : Nat) : Window :=
  let first := min first (count - 1)
  let stop := min (first + height) count
  match chosen with
  | none => ⟨first, stop - first⟩
  | some row =>
    if stop ≤ row then ⟨row + 1 - height, row + 1 - (row + 1 - height)⟩
    else if row < first then ⟨row, min stop (row + height) - row⟩
    else ⟨first, stop - first⟩

/-- The chosen row is in the window. -/
theorem mem_rows_around {row first count height : Nat} (hheight : 0 < height) :
    row ∈ (around (some row) first count height).rows := by
  simp only [around, rows]
  split
  · simp only [List.mem_range'_1]; omega
  · split <;> simp only [List.mem_range'_1] <;> omega

/-- No more rows are seen than fit. -/
theorem size_around_le (chosen : Option Nat) (first count height : Nat) :
    (around chosen first count height).size ≤ height := by
  simp only [around]
  split
  · simp only; omega
  · split
    · simp only; omega
    · split <;> simp only <;> omega

end Window

end HomeConsole
