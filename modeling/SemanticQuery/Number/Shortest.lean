import SemanticQuery.Number.Double

/-!
# Shortest decimals

The fewest decimal digits that read back as a number, the nearest of them where several do, and
how they are written.
-/

namespace SemanticQuery.Number.Double

/-! ### Digits -/

/-- The decimals that are rounded to a number `m · 2 ^ e`, as multiples of `2 ^ (e - 2)`: the ends
of the interval, and whether they belong to it. -/
structure Interval where
  low : Nat
  middle : Nat
  high : Nat
  closed : Bool

/-- The interval of a number. Below a power of two the neighbours are closer. -/
def interval (x : Double) : Interval :=
  let narrow := x.significand == leastFull && decide (minExponent < x.exponent)
  { low := 4 * x.significand - if narrow then 1 else 2
    middle := 4 * x.significand
    high := 4 * x.significand + 2
    closed := x.significand % 2 == 0 }

/-- Numbers `a · unit` and `b · grid` on a common scale: the factors of `a` and of `b`, where
`unit = 2 ^ u` and `grid = 10 ^ g`. -/
def factors (u g : Int) : Nat × Nat :=
  (Nat.pow 2 u.toNat * Nat.pow 10 (-g).toNat, Nat.pow 10 g.toNat * Nat.pow 2 (-u).toNat)

/-- Whether `n · grid` lies in the interval. -/
def Interval.holds (i : Interval) (unit grid : Nat) (n : Nat) : Bool :=
  if i.closed then i.low * unit ≤ n * grid && n * grid ≤ i.high * unit
  else i.low * unit < n * grid && n * grid < i.high * unit

/-- The distance of two natural numbers. -/
def distance (a b : Nat) : Nat := (a - b) + (b - a)

/-- The nearest multiple of `10 ^ g` that reads back as the number, if one does; of two that are
equally near the even one. -/
def onGrid (x : Double) (g : Int) : Option Nat :=
  let i := x.interval
  let (unit, grid) := factors (x.exponent - 2) g
  let low := i.middle * unit / grid
  let high := low + 1
  match i.holds unit grid low, i.holds unit grid high with
  | true, true =>
    let below := distance (i.middle * unit) (low * grid)
    let above := distance (high * grid) (i.middle * unit)
    if below < above || (below == above && low % 2 == 0) then some low else some high
  | true, false => some low
  | false, true => some high
  | false, false => none

/-- The number of decimal digits. -/
def digitCount (n : Nat) : Nat := (Nat.toDigits 10 n).length

/-- The exponent of the leading decimal digit of a positive number. -/
def leading (x : Double) : Int :=
  let (n, d) := x.ratio
  if d ≤ n then (digitCount (n / d) : Int) - 1
  else
    let k := digitCount (d / n)
    if d == n * Nat.pow 10 (k - 1) then 1 - (k : Int) else -(k : Int)

/-- The first grid on which a decimal reads back, from that of the leading digit on: the multiple
and the exponent of the grid. -/
def firstGrid (x : Double) (g : Int) : Nat → Nat × Int
  | 0 => ((x.onGrid g).getD 0, g)
  | fuel + 1 =>
    match x.onGrid g with
    | some n => (n, g)
    | none => firstGrid x (g - 1) fuel

/-- A decimal without the zeros at its end. -/
def stripZeros (n : Nat) (g : Int) : Nat → Nat × Int
  | 0 => (n, g)
  | fuel + 1 => if n ≠ 0 && n % 10 == 0 then stripZeros (n / 10) (g + 1) fuel else (n, g)

/-- The shortest decimal `n · 10 ^ g` that reads back as a positive number. -/
def shortest (x : Double) : Nat × Int :=
  let (n, g) := firstGrid x x.leading 17
  stripZeros n g (digitCount n)

/-! ### Layout -/

/-- Zeros, as characters. -/
def zeros (n : Nat) : List Char := List.replicate n '0'

/-- The decimal digits of a natural number. -/
def digits (n : Nat) : List Char := Nat.toDigits 10 n

/-- Decimals from `10 ^ -5` to below `10 ^ 16` are written with a point, others with an exponent
that carries its sign. `point` is where the point stands, counted from the first digit. -/
def layout (ds : List Char) (g : Int) : List Char :=
  let point : Int := ds.length + g
  if 0 ≤ g && point ≤ 16 then ds ++ zeros g.toNat ++ ['.', '0']
  else if 0 < point && point ≤ 16 then ds.take point.toNat ++ '.' :: ds.drop point.toNat
  else if -5 < point && point ≤ 0 then '0' :: '.' :: zeros (-point).toNat ++ ds
  else
    ds.take 1 ++ (if ds.length == 1 then [] else '.' :: ds.drop 1) ++ 'e' ::
      (if 0 < point then '+' else '-') :: digits (point - 1).natAbs

/-- The text of a number. -/
def print (x : Double) : String :=
  let magnitude :=
    if x.significand == 0 then ['0', '.', '0']
    else
      let (n, g) := x.shortest
      layout (digits n) g
  String.ofList (if x.negative then '-' :: magnitude else magnitude)

end SemanticQuery.Number.Double
