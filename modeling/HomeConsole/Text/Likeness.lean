/-!
# Likeness of words

How alike two words are by the measure of Jaro: the share of characters that both have at nearly
the same place, less those that stand in another order. The measure is kept as a fraction.
-/

namespace HomeConsole

/-- A fraction. -/
structure Fraction where
  num : Nat
  den : Nat
deriving DecidableEq

namespace Fraction

/-- Whether a fraction is greater than another one. -/
def exceeds (a b : Fraction) : Bool := b.num * a.den < a.num * b.den

end Fraction

namespace Likeness

/-- The first place from `low` up to, but without, `high` where a character stands that was not
taken before. -/
def findFree (c : Char) (low high : Nat) (taken : List Nat) (word : List Char) : Option Nat :=
  (word.zipIdx.find? fun (d, j) =>
    decide (low ≤ j) && decide (j < high) && c == d && !taken.contains j).map (·.2)

/-- The pairs of places where two words share a character, at most `range` apart. -/
def shared (range : Nat) (b : List Char) (taken : List Nat) (i : Nat) : List Char → List (Nat × Nat)
  | [] => []
  | c :: cs =>
    match findFree c (i - range) (i + range + 1) taken b with
    | some j => (i, j) :: shared range b (j :: taken) (i + 1) cs
    | none => shared range b taken (i + 1) cs

/-- The measure of Jaro. -/
def measure (a b : List Char) : Fraction :=
  if a.isEmpty && b.isEmpty then ⟨1, 1⟩
  else
    let range := max a.length b.length / 2 - 1
    let pairs := shared range b [] 0 a
    let m := pairs.length
    if m = 0 then ⟨0, 1⟩
    else
      let inA := pairs.filterMap fun pair => a[pair.1]?
      let inB := ((pairs.map (·.2)).mergeSort (· ≤ ·)).filterMap fun j => b[j]?
      let moved := ((inA.zip inB).countP fun (c, d) => c != d) / 2
      ⟨m * m * b.length + m * m * a.length + (m - moved) * a.length * b.length,
        3 * m * a.length * b.length⟩

/-- The word of a list that is most like a word and more like it than `least`; of equals, the last. -/
def closest {α : Type} (least : Fraction) (name : α → String) (word : String) (choices : List α) :
    Option α :=
  (choices.foldl (fun (best : Option (α × Fraction)) choice =>
    let found := measure word.toList (name choice).toList
    if !found.exceeds least then best
    else
      match best with
      | some (_, known) => if known.exceeds found then best else some (choice, found)
      | none => some (choice, found)) none).map (·.1)

end Likeness

end HomeConsole
