import LexicalModel.Json.Double

/-!
# Numbers

An integer that fits into 64 bits, signed or unsigned, is kept as an integer; every other number is
a double.  Doubles are written with the fewest digits that read back, positionally from `1e-5` up to
below `1e16` and with an exponent outside of that range.

* `Literal` : a number as it is written
* `Literal.value?` : what it denotes
* `Number.render` : how a number is written
-/

namespace LexicalModel.Json

/-- A number of a document. -/
inductive Number where
  /-- A whole number between `-2 ^ 63` and `2 ^ 64 - 1`. -/
  | int (n : Int)
  /-- Any other number. -/
  | double (x : Double)
  deriving DecidableEq, Repr

/-- A number as it is written: digits before the point, after the point, and the exponent. -/
structure Literal where
  /-- A minus sign stands in front. -/
  negative : Bool
  /-- Digits before the point. -/
  whole : List Nat
  /-- Digits after the point, if there is one. -/
  fraction : Option (List Nat)
  /-- The exponent, if there is one. -/
  exponent : Option Int
  deriving DecidableEq, Repr

/-- The largest unsigned integer. -/
def maxUnsigned : Nat := Nat.pow 2 64 - 1

/-- The number that digits denote. -/
def ofDigits (ds : List Nat) : Nat := ds.foldl (fun n d => n * 10 + d) 0

namespace Literal

/-- Takes digits into a significand as long as it fits into 64 bits, and counts those left over. -/
def takeDigits : Nat → List Nat → Nat × Nat
  | n, [] => (n, 0)
  | n, d :: ds =>
    if n * 10 + d ≤ maxUnsigned then takeDigits (n * 10 + d) ds else (n, ds.length + 1)

/-- The significand and the power of ten that a literal denotes.  Digits that do not fit into a
significand of 64 bits are dropped; those before the point still count for the power. -/
def decimal (l : Literal) : Nat × Int :=
  let (n, excess) := takeDigits 0 l.whole
  let fraction := l.fraction.getD []
  let (m, dropped) := takeDigits n fraction
  (m, (excess : Int) - ((fraction.length - dropped : Nat) : Int) + l.exponent.getD 0)

/-- The integer that a literal denotes, if it is written as one and fits into 64 bits. -/
def int? (l : Literal) : Option Int :=
  if l.fraction.isSome || l.exponent.isSome then none
  else
    let n := ofDigits l.whole
    if l.negative then
      if 0 < n ∧ n ≤ Nat.pow 2 63 then some (-(n : Int)) else none
    else if n ≤ maxUnsigned then some n else none

/-- What a literal denotes; nothing where it is too large for a double. -/
def value? (l : Literal) : Option Number :=
  match l.int? with
  | some n => some (.int n)
  | none =>
    let (m, e) := l.decimal
    (Magnitude.ofDecimal m e).map fun x => .double ⟨l.negative, x⟩

end Literal

/-- The decimal digits of a number. -/
def decimalChars (n : Nat) : List Char := Nat.toDigits 10 n

/-- The signed decimal digits of a number. -/
def intChars : Int → List Char
  | .ofNat n => decimalChars n
  | .negSucc n => '-' :: decimalChars (n + 1)

namespace Double

/-- Doubles are written positionally when the power of ten of the first digit lies in this range. -/
def positionalPowers : Int × Int := (-5, 15)

/-- Digits with a point such that the first digit stands at `10 ^ power`. -/
def positional (digits : List Char) (power : Int) : List Char :=
  if power < 0 then
    '0' :: '.' :: List.replicate (-power - 1).toNat '0' ++ digits
  else
    let whole := power.toNat + 1
    if digits.length ≤ whole then
      digits ++ List.replicate (whole - digits.length) '0' ++ ['.', '0']
    else digits.take whole ++ '.' :: digits.drop whole

/-- One digit, a point where more follow, and a signed exponent. -/
def scientific (digits : List Char) (power : Int) : List Char :=
  let rest := digits.drop 1
  digits.take 1 ++ (if rest = [] then [] else '.' :: rest) ++
    'e' :: (if power < 0 then ['-'] else ['+']) ++ decimalChars power.natAbs

/-- The text of a magnitude. -/
def magnitudeChars (x : Magnitude) : List Char :=
  if x.significand = 0 then ['0', '.', '0']
  else
    let d := x.shortest
    let digits := decimalChars d.digits
    let power := d.exponent + digits.length - 1
    if positionalPowers.1 ≤ power ∧ power ≤ positionalPowers.2 then positional digits power
    else scientific digits power

/-- The text of a double. -/
def chars (x : Double) : List Char :=
  if x.negative then '-' :: magnitudeChars x.magnitude else magnitudeChars x.magnitude

end Double

/-- The text of a number. -/
def Number.chars : Number → List Char
  | .int n => intChars n
  | .double x => x.chars

end LexicalModel.Json
