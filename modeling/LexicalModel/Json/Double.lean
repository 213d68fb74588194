/-!
# Doubles

Numbers that are no integers are held as doubles: a sign and a magnitude `significand · 2 ^
exponent` with 53 bits.  Everything is computed in exact arithmetic on natural numbers.

* `Magnitude.round` : the nearest magnitude to a quotient, the even one of two
* `Magnitude.shortest` : the fewest decimal digits that denote a magnitude, the nearest of those
-/

namespace LexicalModel.Json

/-- The magnitude `significand · 2 ^ exponent` of a double.  Values made by `Magnitude.round` have a
significand below `2 ^ 53` and the least exponent that allows it, which is at least `-1074`. -/
structure Magnitude where
  /-- The whole-numbered factor. -/
  significand : Nat
  /-- The power of two. -/
  exponent : Int
  deriving DecidableEq, Repr

/-- A double: a sign and a magnitude. -/
structure Double where
  /-- The sign; zero has one too. -/
  negative : Bool
  /-- The distance from zero. -/
  magnitude : Magnitude
  deriving DecidableEq, Repr

namespace Magnitude

/-- The smallest exponent of a double. -/
def minExponent : Int := -1074

/-- The largest exponent of a double. -/
def maxExponent : Int := 971

/-- Zero. -/
def zero : Magnitude := ⟨0, minExponent⟩

/-- `num / den`, rounded to a whole number, a half to the even one. -/
def roundDiv (num den : Nat) : Nat :=
  let q := num / den
  let r := num % den
  if 2 * r < den then q else if den < 2 * r then q + 1 else if q % 2 = 0 then q else q + 1

/-- The two sides of the quotient `num / den` divided by `2 ^ e`. -/
def scale (num den : Nat) (e : Int) : Nat × Nat :=
  if 0 ≤ e then (num, den * Nat.pow 2 e.toNat) else (num * Nat.pow 2 (-e).toNat, den)

/-- The exponent at which `num / den` has a significand of 53 bits, or the smallest one. -/
def exponentOf (num den : Nat) : Int :=
  let guess : Int := (num.log2 : Int) - den.log2 - 52
  let (n, d) := scale num den guess
  max minExponent (if n < d * Nat.pow 2 52 then guess - 1 else guess)

/-- The magnitude nearest to `num / den`; nothing where that is too large for a double. -/
def round (num den : Nat) : Option Magnitude :=
  if num = 0 then some zero
  else
    let e := exponentOf num den
    let (n, d) := scale num den e
    let m := roundDiv n d
    let (m, e) := if m = Nat.pow 2 53 then (Nat.pow 2 52, e + 1) else (m, e)
    if maxExponent < e then none else some ⟨m, e⟩

/-- A magnitude as a quotient. -/
def toRatio (x : Magnitude) : Nat × Nat :=
  if 0 ≤ x.exponent then (x.significand * Nat.pow 2 x.exponent.toNat, 1)
  else (x.significand, Nat.pow 2 (-x.exponent).toNat)

/-- The product, rounded. -/
def mul (x y : Magnitude) : Option Magnitude :=
  let (a, b) := x.toRatio
  let (c, d) := y.toRatio
  round (a * c) (b * d)

/-- The quotient by a magnitude other than zero, rounded. -/
def div (x y : Magnitude) : Option Magnitude :=
  let (a, b) := x.toRatio
  let (c, d) := y.toRatio
  round (a * d) (b * c)

/-- The magnitude nearest to `10 ^ n`. -/
def tenPow (n : Nat) : Option Magnitude := round (Nat.pow 10 n) 1

/-- The largest power of ten that is a double. -/
def maxTenPow : Nat := 308

/-- The value read from `significand · 10 ^ exponent`: the significand becomes a double first and is
then multiplied or divided once by a power of ten, twice where the exponent lies below `-308`.
Nothing where the value is too large. -/
def ofDecimal (significand : Nat) (exponent : Int) : Option Magnitude := do
  let x ← round significand 1
  if x = zero then return zero
  if (maxTenPow : Int) < exponent then none
  if 0 ≤ exponent then x.mul (← tenPow exponent.toNat)
  else if -(maxTenPow : Int) ≤ exponent then x.div (← tenPow (-exponent).toNat)
  else
    let y ← x.div (← tenPow maxTenPow)
    let rest := exponent + maxTenPow
    if -(maxTenPow : Int) ≤ rest then y.div (← tenPow (-rest).toNat) else return zero

/-! ### Shortest decimal digits -/

/-- A decimal `digits · 10 ^ exponent`. -/
structure Decimal where
  /-- The digits as a whole number. -/
  digits : Nat
  /-- The power of ten. -/
  exponent : Int
  deriving DecidableEq, Repr

/-- Whether `d · 10 ^ k` reads back as the magnitude: it lies between the midpoints to the two
neighbouring magnitudes, or on one of them when the significand is even. -/
def readsBack (x : Magnitude) (d : Nat) (k : Int) : Bool :=
  let below := if x.significand = Nat.pow 2 52 ∧ minExponent < x.exponent then 1 else 2
  -- All three are multiples of `2 ^ (exponent - 2)`.
  let lo := 4 * x.significand - below
  let hi := 4 * x.significand + 2
  let unit := toRatio ⟨1, x.exponent - 2⟩
  let (p, q) := if 0 ≤ k then (d * Nat.pow 10 k.toNat, 1) else (d, Nat.pow 10 (-k).toNat)
  -- Compare `p / q` with `lo · unit` and `hi · unit`.
  let l := lo * unit.1 * q
  let v := p * unit.2
  let h := hi * unit.1 * q
  if x.significand % 2 = 0 then l ≤ v && v ≤ h else l < v && v < h

/-- The whole part of the magnitude divided by `10 ^ k`, and whether the magnitude is nearer to it
than to the next number; an even one is preferred where both are as near. -/
def quotientByTenPow (x : Magnitude) (k : Int) : Nat × Bool :=
  let (a, b) := x.toRatio
  let (n, d) := if 0 ≤ k then (a, b * Nat.pow 10 k.toNat) else (a * Nat.pow 10 (-k).toNat, b)
  (n / d, 2 * (n % d) < d || (2 * (n % d) = d && n / d % 2 = 0))

/-- The decimal with the last digit at `10 ^ k` that reads back, the nearer of two, the even one
where both are as near. -/
def decimalAt (x : Magnitude) (k : Int) : Option Decimal :=
  let (d, near) := x.quotientByTenPow k
  let down := x.readsBack d k
  let up := x.readsBack (d + 1) k
  if down && (near || !up) then some ⟨d, k⟩
  else if up then some ⟨d + 1, k⟩
  else none

/-- The first decimal that reads back when the last digit moves down from `10 ^ k`. -/
def searchDown (x : Magnitude) : Nat → Int → Decimal
  | 0, k => ⟨(x.quotientByTenPow k).1, k⟩
  | fuel + 1, k =>
    match x.decimalAt k with
    | some d => d
    | none => searchDown x fuel (k - 1)

/-- The power of ten of the first digit, or one more. -/
def leadingPower (x : Magnitude) : Int :=
  let (a, b) := x.toRatio
  (Nat.toDigits 10 a).length - (Nat.toDigits 10 b).length + 1

/-- Moves the zeros at the end of the digits into the exponent. -/
def Decimal.strip : Nat → Decimal → Decimal
  | 0, d => d
  | fuel + 1, d =>
    if d.digits ≠ 0 ∧ d.digits % 10 = 0 then strip fuel ⟨d.digits / 10, d.exponent + 1⟩ else d

/-- The fewest digits that denote the magnitude, the nearest of those. -/
def shortest (x : Magnitude) : Decimal :=
  (x.searchDown 20 x.leadingPower).strip 20

end Magnitude

end LexicalModel.Json
