/-!
# Doubles

The finite numbers of binary floating point with 53 bits, as exact values `± significand · 2 ^
exponent`. A ratio is rounded to the nearest of them, half-way cases to the even significand;
products and quotients are the rounded exact ones.
-/

namespace SemanticQuery.Number

/-- A finite number `± significand · 2 ^ exponent`. The exponent is the least that leaves a
significand below `2 ^ 53`, and never below `-1074`. -/
structure Double where
  negative : Bool
  significand : Nat
  exponent : Int
  deriving DecidableEq

namespace Double

/-- The least significand of 53 bits. -/
def leastFull : Nat := 0x10000000000000

/-- The least exponent. -/
def minExponent : Int := -1074

/-- The greatest exponent. -/
def maxExponent : Int := 971

/-- Zero with a sign. -/
def zero (negative : Bool) : Double := ⟨negative, 0, minExponent⟩

/-! ### Rounding -/

/-- The quotient rounded to the nearest natural number, half-way cases to the even one. -/
def roundHalfEven (num den : Nat) : Nat :=
  let q := num / den
  let r := num % den
  if 2 * r < den then q
  else if den < 2 * r then q + 1
  else if q % 2 == 0 then q else q + 1

/-- The ratio `num / den`, in units of `2 ^ e`. -/
def scaled (num den : Nat) (e : Int) : Nat × Nat :=
  if 0 ≤ e then (num, den * Nat.pow 2 e.toNat) else (num * Nat.pow 2 (-e).toNat, den)

/-- The exponent at which the ratio's whole part has 53 bits. -/
def ratioExponent (num den : Nat) : Int :=
  let e : Int := (num.log2 : Int) - (den.log2 : Int) - 52
  let (n, d) := scaled num den e
  if n / d < leastFull then e - 1 else e

/-- The ratio rounded to a number, or `none` where it lies beyond the greatest. -/
def ofRatio (negative : Bool) (num den : Nat) : Option Double :=
  if num == 0 then some (zero negative)
  else
    let e := max (ratioExponent num den) minExponent
    let (n, d) := scaled num den e
    let m := roundHalfEven n d
    let (m, e) := if m == 2 * leastFull then (leastFull, e + 1) else (m, e)
    if e ≤ maxExponent then some ⟨negative, m, e⟩ else none

/-- A natural number rounded to a number. -/
def ofNat (n : Nat) : Double := (ofRatio false n 1).getD (zero false)

/-- The number with the given sign. -/
def signed (negative : Bool) (x : Double) : Double := ⟨negative, x.significand, x.exponent⟩

/-! ### Arithmetic -/

/-- The magnitude as a ratio. -/
def ratio (x : Double) : Nat × Nat :=
  if 0 ≤ x.exponent then (x.significand * Nat.pow 2 x.exponent.toNat, 1)
  else (x.significand, Nat.pow 2 (-x.exponent).toNat)

/-- The product of two magnitudes. -/
def mul (x y : Double) : Option Double :=
  let (a, b) := x.ratio
  let (c, d) := y.ratio
  ofRatio false (a * c) (b * d)

/-- The quotient of two magnitudes. -/
def div (x y : Double) : Option Double :=
  let (a, b) := x.ratio
  let (c, d) := y.ratio
  ofRatio false (a * d) (b * c)

/-! ### Order -/

/-- The number as a multiple of `2 ^ -1074`. -/
def units (x : Double) : Int :=
  let n : Nat := x.significand * Nat.pow 2 (x.exponent - minExponent).toNat
  if x.negative then -n else n

/-- Whether one number is at most the other. -/
def le (x y : Double) : Bool := x.units ≤ y.units

/-! ### Decimals -/

/-- The greatest power of ten that is a number. -/
def maxPower : Nat := 308

/-- A power of ten, rounded to a number. -/
def power (k : Nat) : Double := ofNat (Nat.pow 10 k)

/-- The number divided by `10 ^ k`, in steps of at most 308 decades. -/
def divPower (x : Double) (k : Nat) : Double :=
  if k ≤ maxPower then (x.div (power k)).getD x
  else if x.significand == 0 then x
  else divPower ((x.div (power maxPower)).getD x) (k - maxPower)
termination_by k
decreasing_by
  have : 0 < maxPower := by decide
  omega

/-- The decimal `significand · 10 ^ exponent`: the rounded significand, times or divided by the
rounded power of ten. There is none where a product lies beyond the greatest number. -/
def ofDecimal (negative : Bool) (significand : Nat) (exponent : Int) : Option Double :=
  let x := ofNat significand
  if exponent < 0 then some ((x.divPower (-exponent).toNat).signed negative)
  else if exponent.toNat ≤ maxPower then (x.mul (power exponent.toNat)).map (signed negative)
  else if significand == 0 then some (zero negative)
  else none

end Double

end SemanticQuery.Number
