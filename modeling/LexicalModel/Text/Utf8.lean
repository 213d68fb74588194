/-!
# Texts as bytes

A text is stored as UTF-8.  Reading bytes back either gives the text or says where the bytes stop
being one.

* `encode`, `decode` : a text as the contents of a file and back
* `bytes`, `text?` : a text as a list of bytes, and the text that such a list is
* `Fault` : the place where bytes are not UTF-8
* `lossy` : the text of any bytes, with a replacement character for what is none
-/

namespace LexicalModel.Text.Utf8

/-- Where bytes fail to be UTF-8. -/
structure Fault where
  /-- Length of the longest prefix that is a text. -/
  index : Nat
  /-- Length of the sequence that cannot be continued, or nothing where the bytes end inside a
  sequence that could be. -/
  length : Option Nat
  deriving DecidableEq, Repr

/-- The fault in words. -/
def Fault.message (f : Fault) : String :=
  match f.length with
  | some n => s!"invalid utf-8 sequence of {n} bytes from index {f.index}"
  | none => s!"incomplete utf-8 byte sequence from index {f.index}"

/-- What stands at the front of some bytes. -/
inductive Front where
  /-- A character of so many bytes. -/
  | char (c : Char) (size : Nat)
  /-- So many bytes that no character starts with. -/
  | invalid (size : Nat)
  /-- The start of a character, cut off by the end. -/
  | incomplete
  deriving DecidableEq, Repr

/-- A byte that continues a character. -/
def isTail (b : UInt8) : Bool := 0x80 ≤ b && b ≤ 0xBF

/-- The six payload bits of a continuing byte. -/
def tailBits (b : UInt8) : Nat := b.toNat % 64

/-- The second byte that may follow the first byte of a three-byte character. -/
def isSecondOfThree (a b : UInt8) : Bool :=
  if a = 0xE0 then 0xA0 ≤ b && b ≤ 0xBF
  else if a = 0xED then 0x80 ≤ b && b ≤ 0x9F
  else isTail b

/-- The second byte that may follow the first byte of a four-byte character. -/
def isSecondOfFour (a b : UInt8) : Bool :=
  if a = 0xF0 then 0x90 ≤ b && b ≤ 0xBF
  else if a = 0xF4 then 0x80 ≤ b && b ≤ 0x8F
  else isTail b

/-- What stands at the front of the bytes `a :: bs`. -/
def front (a : UInt8) (bs : List UInt8) : Front :=
  if a < 0x80 then .char (Char.ofNat a.toNat) 1
  else if 0xC2 ≤ a && a ≤ 0xDF then
    match bs with
    | [] => .incomplete
    | b :: _ =>
      if isTail b then .char (Char.ofNat (a.toNat % 32 * 64 + tailBits b)) 2 else .invalid 1
  else if 0xE0 ≤ a && a ≤ 0xEF then
    match bs with
    | [] => .incomplete
    | b :: bs =>
      if isSecondOfThree a b then
        match bs with
        | [] => .incomplete
        | c :: _ =>
          if isTail c then
            .char (Char.ofNat ((a.toNat % 16 * 64 + tailBits b) * 64 + tailBits c)) 3
          else .invalid 2
      else .invalid 1
  else if 0xF0 ≤ a && a ≤ 0xF4 then
    match bs with
    | [] => .incomplete
    | b :: bs =>
      if isSecondOfFour a b then
        match bs with
        | [] => .incomplete
        | c :: bs =>
          if isTail c then
            match bs with
            | [] => .incomplete
            | d :: _ =>
              if isTail d then
                .char (Char.ofNat
                  (((a.toNat % 8 * 64 + tailBits b) * 64 + tailBits c) * 64 + tailBits d)) 4
              else .invalid 3
          else .invalid 2
      else .invalid 1
  else .invalid 1

/-- The first fault of the bytes that follow `index` read ones, of which the first `skip` belong to
a character already seen. -/
def firstFault (index skip : Nat) : List UInt8 → Fault
  | [] => ⟨index, none⟩
  | a :: bs =>
    match skip with
    | skip + 1 => firstFault index skip bs
    | 0 =>
      match front a bs with
      | .char _ size => firstFault (index + size) (size - 1) bs
      | .invalid size => ⟨index, some size⟩
      | .incomplete => ⟨index, none⟩

/-- Characters as bytes. -/
def charBytes (cs : List Char) : List UInt8 := cs.flatMap String.utf8EncodeChar

/-- A text as a list of bytes. -/
def bytes (s : String) : List UInt8 := charBytes s.toList

/-- The text that a list of bytes is, if it is one. -/
def text? (bs : List UInt8) : Option String := String.fromUTF8? ⟨bs.toArray⟩

/-- A text as the contents of a file. -/
def encode (s : String) : ByteArray := s.toUTF8

/-- The text that the bytes hold. -/
def decode (bytes : ByteArray) : Except Fault String :=
  match String.fromUTF8? bytes with
  | some s => .ok s
  | none => .error (firstFault 0 0 bytes.toList)

/-- The characters of the bytes, of which the first `skip` belong to what was already seen; each
sequence that is no character becomes the replacement character. -/
def lossyChars (skip : Nat) : List UInt8 → List Char
  | [] => []
  | a :: bs =>
    match skip with
    | skip + 1 => lossyChars skip bs
    | 0 =>
      match front a bs with
      | .char c size => c :: lossyChars (size - 1) bs
      | .invalid size => '\ufffd' :: lossyChars (size - 1) bs
      | .incomplete => ['\ufffd']

/-- The text of any bytes, with a replacement character for each sequence that is no character. -/
def lossy (bs : List UInt8) : String := String.ofList (lossyChars 0 bs)

/-- The text of the contents of any file. -/
def decodeLossy (contents : ByteArray) : String := lossy contents.toList

end LexicalModel.Text.Utf8
