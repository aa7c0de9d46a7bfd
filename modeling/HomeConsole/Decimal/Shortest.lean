/-!
# Shortest decimals of binary fractions

A double stands for a whole interval of reals, those that round to it. Its shortest decimal is the
one with the fewest digits in that interval, and of those the nearest to the double's own value.
`shortest` finds it in exact arithmetic: for one digit, two digits and so on it tries the two
points of the decimal grid around the value, so the first grid with a hit has the fewest digits.

`Notation` says how such a decimal is written out.
-/

namespace HomeConsole.Decimal

/-- A finite double without its sign: `significand * 2 ^ exponent`. -/
structure Binary where
  significand : Nat
  exponent : Int
  /-- The next smaller double is only half a step away. -/
  atPowerOfTwo : Bool
deriving Repr, DecidableEq

/-- A decimal `digits * 10 ^ exponent`. -/
structure Digits where
  digits : Nat
  exponent : Int
deriving Repr, DecidableEq

/-- Whether the bits of a double have the sign set. -/
def isNegative (bits : UInt64) : Bool := bits.toNat ≥ Nat.pow 2 63

/-- The magnitude behind the bits of a double; `none` for infinities and for what is no number. -/
def Binary.ofBits? (bits : UInt64) : Option Binary :=
  let fraction : Nat := bits.toNat % Nat.pow 2 52
  let field : Nat := bits.toNat / Nat.pow 2 52 % Nat.pow 2 11
  if field = 2047 then none
  else if field = 0 then some ⟨fraction, -1074, false⟩
  else some ⟨Nat.pow 2 52 + fraction, (field : Int) - 1075, fraction = 0 ∧ field > 1⟩

/-- How many decimal digits a number has. -/
def width (n : Nat) : Nat := (Nat.toDigits 10 n).length

/-- The exponent of the leading digit of the fraction `num / den`, both positive: the largest `e`
with `10 ^ e ≤ num / den`. -/
def leading (num den : Nat) : Int :=
  if den ≤ num then (width (num / den) : Int) - 1
  else - (width ((den + num - 1) / num - 1) : Int)

/-- A value, the ends of its interval, and one denominator for all three. -/
structure Interval where
  low : Nat
  value : Nat
  high : Nat
  den : Nat
  closed : Bool
deriving Repr, DecidableEq

/-- The reals that round to a double. The ends belong to it when its significand is even. -/
def Binary.interval (b : Binary) : Interval :=
  let value := 4 * b.significand
  let low := value - (if b.atPowerOfTwo then 1 else 2)
  let high := value + 2
  let even := b.significand % 2 = 0
  if b.exponent ≥ 2 then
    let scale := Nat.pow 2 (b.exponent - 2).toNat
    ⟨low * scale, value * scale, high * scale, 1, even⟩
  else ⟨low, value, high, Nat.pow 2 (2 - b.exponent).toNat, even⟩

/-- Whether `d * 10 ^ e` lies in the interval. -/
def Interval.has (i : Interval) (d : Nat) (e : Int) : Bool :=
  let point := if e ≥ 0 then d * Nat.pow 10 e.toNat * i.den else d * i.den
  let scale := if e ≥ 0 then 1 else Nat.pow 10 (-e).toNat
  if i.closed then i.low * scale ≤ point ∧ point ≤ i.high * scale
  else i.low * scale < point ∧ point < i.high * scale

/-- The grid point above `below` on the grid of `n` digits; the next power of ten is written with
one digit. -/
def above (n below : Nat) (e : Int) : Digits :=
  if below + 1 = Nat.pow 10 n then ⟨1, e + n⟩ else ⟨below + 1, e⟩

/-- Looks on grids of more and more digits, `n` of them on the first, for a point of the interval.
Of two points equally near the value the upper one is taken if `up`, the even one otherwise. -/
def Interval.search (i : Interval) (up : Bool) (lead : Int) : Nat → Nat → Digits
  | 0, _ => ⟨i.value, 0⟩
  | fuel + 1, n =>
    let e := lead - ((n : Int) - 1)
    let num := if e ≥ 0 then i.value else i.value * Nat.pow 10 (-e).toNat
    let den := if e ≥ 0 then i.den * Nat.pow 10 e.toNat else i.den
    let below := num / den
    let rest := num % den
    let lowFits := i.has below e
    let highFits := i.has (below + 1) e
    if lowFits && highFits then
      if 2 * rest < den ∨ (2 * rest = den ∧ ! up ∧ below % 2 = 0) then ⟨below, e⟩ else above n below e
    else if lowFits then ⟨below, e⟩
    else if highFits then above n below e
    else search i up lead fuel (n + 1)

/-- The shortest decimal of a double that is not zero. Seventeen digits always suffice. -/
def Binary.shortest (b : Binary) (up : Bool) : Digits :=
  let i := b.interval
  i.search up (leading i.value i.den) 17 1

/-- How decimals are written: which way an exact tie goes, where positional notation starts and
ends, counted in the place of the point from the first digit on, and how an exponent is marked. -/
structure Style where
  tieUp : Bool
  positional : Int → Bool
  exponent : Int → String

/-- A run of zeros. -/
def zeros (n : Int) : List Char := List.replicate n.toNat '0'

/-- A decimal in a style. Positional notation always shows a point, with a zero behind it if need
be; scientific notation shows one only between digits. -/
def Digits.write (style : Style) (d : Digits) : String :=
  let digits := Nat.toDigits 10 d.digits
  let count : Int := digits.length
  let point := count + d.exponent
  String.ofList <|
    if style.positional point then
      if 0 ≤ d.exponent then digits ++ zeros d.exponent ++ ['.', '0']
      else if 0 < point then digits.take point.toNat ++ '.' :: digits.drop point.toNat
      else ['0', '.'] ++ zeros (-point) ++ digits
    else
      match digits with
      | [] => []
      | [single] => single :: (style.exponent (point - 1)).toList
      | first :: more => first :: '.' :: more ++ (style.exponent (point - 1)).toList

/-- The shortest text of the double with these bits; `none` if it is not finite. -/
def write? (style : Style) (bits : UInt64) : Option String :=
  (Binary.ofBits? bits).map fun b =>
    let sign := if isNegative bits then "-" else ""
    if b.significand = 0 then sign ++ "0.0" else sign ++ (b.shortest style.tieUp).write style

/-- Positional notation throughout. -/
def Style.plain : Style := ⟨true, fun _ => true, fun _ => ""⟩

end HomeConsole.Decimal
