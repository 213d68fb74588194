import LexicalModel.Command.Printf.Floating

/-!
# Directives of formats

A directive says how a value is written: in which notation, how wide, with how many digits, and how
it is padded.

* `Directive` : flags, width, precision and notation
* `Directive.text`, `Directive.integer`, `Directive.floating` : values as a directive writes them
-/

namespace LexicalModel.Command

/-- A directive of a format. -/
structure Directive where
  /-- The value stands on the left. -/
  left : Bool := false
  /-- A positive number has a sign. -/
  plus : Bool := false
  /-- A positive number has a blank instead of a sign. -/
  blank : Bool := false
  /-- The notation shows which one it is. -/
  marked : Bool := false
  /-- A number is padded with zeros. -/
  zeros : Bool := false
  /-- The least width. -/
  width : Nat := 0
  /-- How much is written. -/
  precision : Option Nat := none
  /-- The notation. -/
  letter : Char

namespace Directive

/-- Adds a flag. -/
def withFlag (d : Directive) : Char → Directive
  | '-' => { d with left := true }
  | '+' => { d with plus := true }
  | ' ' => { d with blank := true }
  | '#' => { d with marked := true }
  | '0' => { d with zeros := true }
  | _ => d

/-- Sets the width; a negative one asks for the left. -/
def withWidth (d : Directive) (w : Int) : Directive :=
  if w < 0 then { d with left := true, width := w.natAbs } else { d with width := w.toNat }

/-- Pads with blanks. -/
def pad (d : Directive) (r : Raw) : Raw :=
  let blanks := List.replicate (d.width - r.length) ' '
  if d.left then r ++ blanks else blanks ++ r

/-- Pads a number: zeros come between its sign or mark and its digits. -/
def padNumber (d : Directive) (zeros : Bool) (front digits : Raw) : Raw :=
  if zeros && !d.left then
    front ++ List.replicate (d.width - front.length - digits.length) '0' ++ digits
  else d.pad (front ++ digits)

/-- A text. -/
def text (d : Directive) (r : Raw) : Raw :=
  d.pad (match d.precision with
    | some n => r.take n
    | none => r)

/-- The sign of a number. -/
def sign (d : Directive) (negative : Bool) : Raw :=
  if negative then ['-'] else if d.plus then ['+'] else if d.blank then [' '] else []

/-- Whole numbers that fit into a word. -/
def word : Nat := Nat.pow 2 64

/-- A whole number.  Unsigned notations take it modulo the size of a word. -/
def integer (d : Directive) (n : Int) : Raw :=
  let signed := d.letter = 'd' || d.letter = 'i'
  let size := if signed then n.natAbs else (n % (word : Int)).toNat
  let base := match d.letter with
    | 'o' => 8
    | 'x' | 'X' => 16
    | _ => 10
  let digits := if size = 0 && d.precision = some 0 then [] else Raw.digits base size
  let digits := if d.letter = 'X' then digits.map toCapital else digits
  let digits := padDigits (d.precision.getD 1) digits
  let digits := if d.letter = 'o' && d.marked && digits.head? ≠ some '0' then '0' :: digits
    else digits
  let digits := if size = 0 && d.precision = some 0 && !(d.letter = 'o' && d.marked) then []
    else digits
  let front :=
    if signed then d.sign (n < 0)
    else if d.marked && base = 16 && size ≠ 0 then ['0', d.letter]
    else []
  d.padNumber (d.zeros && d.precision.isNone) front digits

/-- A number in the shorter of the fixed and the scientific notation. -/
def general (d : Directive) (whole : Nat) (exponent : Int) : Raw :=
  let p := match d.precision with
    | none => 6
    | some 0 => 1
    | some n => n
  let (ds, k) := scientificDigits whole exponent (p - 1)
  if -4 ≤ k && k < p then
    let (before, behind) := fixedDigits whole exponent (p - 1 - k).toNat
    withPoint d.marked before (if d.marked then behind else dropZeros behind)
  else
    let behind := ds.drop 1
    withPoint d.marked (ds.take 1) (if d.marked then behind else dropZeros behind) ++
      'e' :: exponentText 2 k

/-- A floating point number. -/
def floating (d : Directive) (x : Floating) : Raw :=
  let capital := isUpper d.letter
  let shape (r : Raw) : Raw := if capital then r.map toCapital else r
  match x.size with
  | .infinite => d.pad (d.sign x.negative ++ shape "inf".toList)
  | .finite whole exponent =>
    let places := d.precision.getD 6
    let digits : Raw := match toSmall d.letter with
      | 'f' =>
        let (before, behind) := fixedDigits whole exponent places
        withPoint d.marked before behind
      | 'e' =>
        let (ds, k) := scientificDigits whole exponent places
        withPoint d.marked (ds.take 1) (ds.drop 1) ++ 'e' :: exponentText 2 k
      | _ => d.general whole exponent
    d.padNumber d.zeros (d.sign x.negative) (shape digits)

end Directive

/-! ### Whole numbers in arguments -/

/-- A whole number read from an argument. -/
structure ReadInteger where
  /-- The number. -/
  value : Int
  /-- It was out of range. -/
  excess : Bool
  /-- What follows it. -/
  rest : Raw
  /-- There was no number at all. -/
  missing : Bool

/-- The digits of a number and their base, and the rest. -/
def basedDigits (cs : Raw) : Nat × Raw × Raw :=
  match cs with
  | '0' :: x :: more =>
    let ds := more.takeWhile isHex
    if toSmall x = 'x' && ds ≠ [] then (16, ds, more.drop ds.length)
    else
      let ds := cs.takeWhile isOctal
      (8, ds, cs.drop ds.length)
  | _ =>
    let ds := if cs.head? = some '0' then cs.takeWhile isOctal else cs.takeWhile isDigit
    (10, ds, cs.drop ds.length)

/-- The whole number that an argument starts with; it may have a base, and is kept in the range of
signed or unsigned words. -/
def readInteger (signed : Bool) (arg : Raw) : ReadInteger :=
  let cs := arg.dropWhile isSpace
  let (negative, cs) : Bool × Raw := match cs with
    | '-' :: rest => (true, rest)
    | '+' :: rest => (false, rest)
    | _ => (false, cs)
  let (base, ds, rest) := basedDigits cs
  if ds = [] then ⟨0, false, arg, true⟩
  else
    let n := numeral base ds
    if signed then
      if negative then
        if Nat.pow 2 63 < n then ⟨-(Nat.pow 2 63 : Int), true, rest, false⟩
        else ⟨-n, false, rest, false⟩
      else if Nat.pow 2 63 ≤ n then ⟨(Nat.pow 2 63 : Int) - 1, true, rest, false⟩
      else ⟨n, false, rest, false⟩
    else if Directive.word ≤ n then ⟨Directive.word - 1, true, rest, false⟩
    else ⟨if negative then -(n : Int) else n, false, rest, false⟩

end LexicalModel.Command
