import LexicalModel.Text.Utf8

/-!
# Raw text

Commands do not care whether what they read is a text: they look at bytes.  Raw text is a list of
characters each of which stands for the byte of its number, so that bytes can be compared with the
characters they usually stand for.

* `Raw` : bytes, each as a character
* `Raw.ofString`, `Raw.toBytes` : from a text, and to bytes
-/

namespace LexicalModel.Command

/-- Bytes, each as the character of its number. -/
abbrev Raw := List Char

/-- The character of a byte. -/
def charOf (b : UInt8) : Char := Char.ofNat b.toNat

/-- The byte of a character. -/
def byteOf (c : Char) : UInt8 := UInt8.ofNat c.toNat

namespace Raw

/-- Bytes as raw text. -/
def ofBytes (bytes : ByteArray) : Raw := bytes.toList.map charOf

/-- Raw text as bytes. -/
def toBytes (r : Raw) : ByteArray := r.foldl (fun out c => out.push (byteOf c)) ByteArray.empty

/-- The bytes of a text. -/
def ofString (s : String) : Raw := ofBytes s.toUTF8

/-- Digits of a number in a base. -/
def digits (base n : Nat) : Raw := Nat.toDigits base n

/-- A number in decimal digits. -/
def ofNat (n : Nat) : Raw := digits 10 n

/-- A number in decimal digits, with its sign where it is negative. -/
def ofInt (n : Int) : Raw := if n < 0 then '-' :: ofNat n.natAbs else ofNat n.natAbs

/-- Pieces of raw text with a separator between them. -/
def join (separator : Raw) : List Raw → Raw
  | [] => []
  | [r] => r
  | r :: rest => r ++ separator ++ join separator rest

end Raw

/-! ### Kinds of characters -/

/-- A small letter. -/
def isLower (c : Char) : Bool := 'a' ≤ c && c ≤ 'z'

/-- A capital. -/
def isUpper (c : Char) : Bool := 'A' ≤ c && c ≤ 'Z'

/-- A letter. -/
def isLetter (c : Char) : Bool := isLower c || isUpper c

/-- A decimal digit. -/
def isDigit (c : Char) : Bool := '0' ≤ c && c ≤ '9'

/-- A letter or a digit. -/
def isAlnum (c : Char) : Bool := isLetter c || isDigit c

/-- An octal digit. -/
def isOctal (c : Char) : Bool := '0' ≤ c && c ≤ '7'

/-- A hexadecimal digit. -/
def isHex (c : Char) : Bool := isDigit c || ('a' ≤ c && c ≤ 'f') || ('A' ≤ c && c ≤ 'F')

/-- White space. -/
def isSpace (c : Char) : Bool := c = ' ' || ('\t' ≤ c && c ≤ '\r')

/-- A character that names are made of. -/
def isWord (c : Char) : Bool := isAlnum c || c = '_'

/-- A control character. -/
def isControl (c : Char) : Bool := c.toNat < 32 || c.toNat = 127

/-- A character with a visible form. -/
def isGraph (c : Char) : Bool := 33 ≤ c.toNat && c.toNat ≤ 126

/-- A character that can be printed. -/
def isPrint (c : Char) : Bool := 32 ≤ c.toNat && c.toNat ≤ 126

/-- A visible character that is no letter and no digit. -/
def isPunct (c : Char) : Bool := isGraph c && !isAlnum c

/-- The named classes of characters. -/
def classTest? : String → Option (Char → Bool)
  | "lower" => some isLower
  | "upper" => some isUpper
  | "digit" => some isDigit
  | "alpha" => some isLetter
  | "alnum" => some isAlnum
  | "space" => some isSpace
  | "blank" => some fun c => c = ' ' || c = '\t'
  | "punct" => some isPunct
  | "cntrl" => some isControl
  | "graph" => some isGraph
  | "print" => some isPrint
  | "xdigit" => some isHex
  | _ => none

/-- The value of a digit in any base up to 36. -/
def digitValue? (c : Char) : Option Nat :=
  if isDigit c then some (c.toNat - 48)
  else if isLower c then some (c.toNat - 87)
  else if isUpper c then some (c.toNat - 55)
  else none

/-- The number that digits of a base denote. -/
def numeral (base : Nat) (ds : Raw) : Nat :=
  ds.foldl (fun n d => n * base + (digitValue? d).getD 0) 0

/-- The small letter of a capital. -/
def toSmall (c : Char) : Char := if isUpper c then Char.ofNat (c.toNat + 32) else c

/-- The capital of a small letter. -/
def toCapital (c : Char) : Char := if isLower c then Char.ofNat (c.toNat - 32) else c

end LexicalModel.Command
