import HomeConsole.Text.Blank

/-!
# Rows of items

A long table of characters or words is kept as rows, each at the place of its first item. An item is
found in the last row that begins at or before its place.
-/

namespace HomeConsole

/-- Looks among the entries from `low` up to, but without, `high` for the last one that stands at or
before `n`. -/
def lastUpTo? {α : Type} (table : Array (Nat × α)) (n low high : Nat) : Option (Nat × α) :=
  if low < high then
    let middle := (low + high) / 2
    match table[middle]? with
    | none => none
    | some entry =>
      if n < entry.1 then lastUpTo? table n low middle
      else some ((lastUpTo? table n (middle + 1) high).getD entry)
  else none
termination_by high - low

/-- What a table of ranges says of a number: each entry holds the first number of its range, the last
one, and what it says. -/
def valueAt? {α : Type} (table : Array (Nat × Nat × α)) (n : Nat) : Option α :=
  (lastUpTo? table n 0 table.size).bind fun (_, last, value) =>
    if n ≤ last then some value else none

/-- Rows of characters, or of words with one blank between them, in ascending order of their
places. -/
abbrev Rows := Array (Nat × String)

namespace Rows

/-- The row that a place may lie in, with the distance from its front. -/
def row? (rows : Rows) (n : Nat) : Option (Nat × List Char) :=
  (lastUpTo? rows n 0 rows.size).map fun (first, row) => (n - first, row.toList)

/-- The character at a place. -/
def char? (rows : Rows) (n : Nat) : Option Char :=
  (rows.row? n).bind fun (distance, row) => row[distance]?

/-- The word at a place, if one is there that is not empty. -/
def word? (rows : Rows) (n : Nat) : Option (List Char) :=
  (rows.row? n).bind fun (distance, row) =>
    ((splitWhere (· == ' ') row)[distance]?).filter (! ·.isEmpty)

end Rows

end HomeConsole
