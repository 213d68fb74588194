import LexicalModel.Command.Raw

/-!
# Floating point numbers

A machine number is a whole number times a power of two.  Reading a decimal rounds to the nearest
machine number, a tie goes to the even one; writing rounds the exact value of a machine number in
the same way.

* `Precision` : how many bits a machine number has
* `Floating` : machine numbers
* `Floating.read?` : the machine number that a text starts with
* `fixedDigits`, `scientificDigits` : its digits
-/

namespace LexicalModel.Command

/-- How many bits machine numbers have, and the exponents of the smallest and the largest. -/
structure Precision where
  /-- The bits of the whole number. -/
  bits : Nat
  /-- The least power of two that the whole number is multiplied with. -/
  least : Int
  /-- The largest power of two below which all numbers lie. -/
  most : Int

/-- The usual precision. -/
def Precision.double : Precision := ⟨53, -1074, 1024⟩

/-- The precision of the widest numbers. -/
def Precision.wide : Precision := ⟨64, -16445, 16384⟩

/-- A machine number without its sign. -/
inductive Magnitude where
  /-- A whole number times a power of two. -/
  | finite (whole : Nat) (exponent : Int)
  /-- Too large for any number. -/
  | infinite
  deriving DecidableEq, Repr

/-- A machine number. -/
structure Floating where
  /-- It is negative. -/
  negative : Bool
  /-- The number without sign. -/
  size : Magnitude
  deriving DecidableEq, Repr

/-- The nearest whole number to a quotient; a tie goes to the even one. -/
def roundDiv (n d : Nat) : Nat :=
  let q := n / d
  let r := n % d
  if 2 * r < d then q else if d < 2 * r then q + 1 else if q % 2 = 0 then q else q + 1

/-- A power of two as numerator and denominator. -/
def scale (n d : Nat) (k : Int) : Nat × Nat :=
  if 0 ≤ k then (n * Nat.pow 2 k.toNat, d) else (n, d * Nat.pow 2 (-k).toNat)

/-- The nearest machine number to a quotient, and whether it is out of range. -/
def Magnitude.ofRatio (p : Precision) (n d : Nat) : Magnitude × Bool :=
  if n = 0 then (.finite 0 0, false)
  else
    let guess : Int := (n.log2 : Int) - (d.log2 : Int) - (p.bits : Int)
    let fits (k : Int) : Bool :=
      let (n, d) := scale n d (-k)
      n / d < Nat.pow 2 p.bits
    let k := if fits guess then guess else guess + 1
    let k := max k p.least
    let (n', d') := scale n d (-k)
    let whole := roundDiv n' d'
    let (whole, k) :=
      if whole = Nat.pow 2 p.bits then (Nat.pow 2 (p.bits - 1), k + 1) else (whole, k)
    if p.most < k + p.bits && Nat.pow 2 (p.bits - 1) ≤ whole then (.infinite, true)
    else (.finite whole k, whole = 0 || (whole < Nat.pow 2 (p.bits - 1) && n' % d' ≠ 0))

/-- The digits of a number with a point among them: the digits, how many of them stand behind the
point, and the rest. -/
def pointed (cs : Raw) : Raw × Nat × Raw :=
  let whole := cs.takeWhile isDigit
  let rest := cs.drop whole.length
  match rest with
  | '.' :: more =>
    let part := more.takeWhile isDigit
    if whole = [] && part = [] then ([], 0, cs)
    else (whole ++ part, part.length, more.drop part.length)
  | _ => (whole, 0, rest)

/-- An exponent after its letter, and the rest; nothing where there is none. -/
def exponent? (cs : Raw) : Option (Int × Raw) :=
  match cs with
  | c :: rest =>
    if toSmall c ≠ 'e' then none
    else
      let (negative, rest) : Bool × Raw := match rest with
        | '-' :: rest => (true, rest)
        | '+' :: rest => (false, rest)
        | _ => (false, rest)
      let ds := rest.takeWhile isDigit
      if ds = [] then none
      else
        -- beyond this every number is zero or infinite
        let n : Int := min (numeral 10 ds) 100000
        some (if negative then -n else n, rest.drop ds.length)
  | [] => none

/-- The size that a text without sign starts with, whether it is out of range, and the rest. -/
def Magnitude.read? (p : Precision) (cs : Raw) : Option (Magnitude × Bool × Raw) :=
  let (ds, behind, rest) := pointed cs
  if ds = [] then none
  else
    let (e, rest) := (exponent? rest).getD (0, rest)
    let e := e - behind
    let n := numeral 10 ds
    let (m, excess) := if 0 ≤ e then ofRatio p (n * Nat.pow 10 e.toNat) 1
      else ofRatio p n (Nat.pow 10 (-e).toNat)
    some (m, excess, rest)

/-- The number that a text starts with, whether it is out of range, and the rest. -/
def Floating.read? (p : Precision) (cs : Raw) : Option (Floating × Bool × Raw) :=
  let cs := cs.dropWhile isSpace
  let (negative, cs) : Bool × Raw := match cs with
    | '-' :: rest => (true, rest)
    | '+' :: rest => (false, rest)
    | _ => (false, cs)
  (Magnitude.read? p cs).map fun (m, excess, rest) => (⟨negative, m⟩, excess, rest)

/-! ### Digits -/

/-- Digits with zeros in front up to a length. -/
def padDigits (length : Nat) (ds : Raw) : Raw := List.replicate (length - ds.length) '0' ++ ds

/-- A number as whole part and so many digits behind the point. -/
def fixedDigits (whole : Nat) (exponent : Int) (places : Nat) : Raw × Raw :=
  let (n, d) := scale (whole * Nat.pow 10 places) 1 exponent
  let ds := padDigits (places + 1) (Raw.ofNat (roundDiv n d))
  (ds.take (ds.length - places), ds.drop (ds.length - places))

/-- The decimal exponent of a number that is not zero. -/
def decimalExponent (n d : Nat) : Int :=
  let guess : Int := ((Raw.ofNat n).length : Int) - ((Raw.ofNat d).length : Int)
  let atLeast (k : Int) : Bool :=
    if 0 ≤ k then d * Nat.pow 10 k.toNat ≤ n else d ≤ n * Nat.pow 10 (-k).toNat
  if atLeast guess then guess else guess - 1

/-- The digits of a number in scientific notation, one of them before the point, and the
exponent. -/
def scientificDigits (whole : Nat) (exponent : Int) (places : Nat) : Raw × Int :=
  if whole = 0 then (List.replicate (places + 1) '0', 0)
  else
    let (n, d) := scale whole 1 exponent
    let k := decimalExponent n d
    let shift : Int := places - k
    let rounded :=
      if 0 ≤ shift then roundDiv (n * Nat.pow 10 shift.toNat) d
      else roundDiv n (d * Nat.pow 10 (-shift).toNat)
    if rounded = Nat.pow 10 (places + 1) then (Raw.ofNat (rounded / 10), k + 1)
    else (Raw.ofNat rounded, k)

/-- An exponent with its sign and at least so many digits. -/
def exponentText (least : Nat) (k : Int) : Raw :=
  (if k < 0 then '-' else '+') :: padDigits least (Raw.ofNat k.natAbs)

/-- Digits before and behind a point, which is left out where nothing is behind it. -/
def withPoint (always : Bool) (before behind : Raw) : Raw :=
  if behind = [] && !always then before else before ++ '.' :: behind

/-- Drops zeros at the end. -/
def dropZeros (ds : Raw) : Raw := (ds.reverse.dropWhile (· = '0')).reverse

end LexicalModel.Command
