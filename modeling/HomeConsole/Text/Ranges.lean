/-!
# Sets of code points

A set of code points is a sorted table of ranges without overlaps. Membership is a binary search.
-/

namespace HomeConsole

/-- Ranges of code points, both ends included, in ascending order. -/
abbrev Ranges := Array (Nat × Nat)

namespace Ranges

/-- Looks for a range with `n` in it among those from `low` up to, but without, `high`. -/
def search (table : Ranges) (n low high : Nat) : Bool :=
  if low < high then
    let middle := (low + high) / 2
    match table[middle]? with
    | none => false
    | some (first, last) =>
      if n < first then search table n low middle
      else if last < n then search table n (middle + 1) high
      else true
  else false
termination_by high - low

/-- Whether a character is in the set. -/
def has (table : Ranges) (c : Char) : Bool := table.search c.toNat 0 table.size

end Ranges

end HomeConsole
