import LexicalModel.Command.Raw

/-!
# Sets of bytes

A set of bytes is kept as 256 bits in four words, so that membership is a shift and a mask.
-/

namespace LexicalModel.Command

/-- A set of bytes, 64 of them in each word. -/
structure ByteSet where
  /-- The bytes below 64. -/
  first : UInt64
  /-- The bytes from 64 on. -/
  second : UInt64
  /-- The bytes from 128 on. -/
  third : UInt64
  /-- The bytes from 192 on. -/
  fourth : UInt64
  deriving DecidableEq, Repr

namespace ByteSet

/-- No byte. -/
def none : ByteSet := ⟨0, 0, 0, 0⟩

/-- The bytes that are not in a set. -/
def complement (s : ByteSet) : ByteSet := ⟨~~~s.first, ~~~s.second, ~~~s.third, ~~~s.fourth⟩

/-- Every byte. -/
def all : ByteSet := none.complement

/-- The bytes of two sets. -/
def union (s t : ByteSet) : ByteSet :=
  ⟨s.first ||| t.first, s.second ||| t.second, s.third ||| t.third, s.fourth ||| t.fourth⟩

/-- The bytes of one set that are not in another. -/
def minus (s t : ByteSet) : ByteSet :=
  ⟨s.first &&& ~~~t.first, s.second &&& ~~~t.second, s.third &&& ~~~t.third,
    s.fourth &&& ~~~t.fourth⟩

/-- Whether a byte is in a set. -/
def contains (s : ByteSet) (b : UInt8) : Bool :=
  let word := if b < 64 then s.first else if b < 128 then s.second
    else if b < 192 then s.third else s.fourth
  (word >>> (b.toUInt64 &&& 63)) &&& 1 == 1

/-- The set of one byte. -/
def single (b : UInt8) : ByteSet :=
  let bit : UInt64 := 1 <<< (b.toUInt64 &&& 63)
  if b < 64 then ⟨bit, 0, 0, 0⟩ else if b < 128 then ⟨0, bit, 0, 0⟩
  else if b < 192 then ⟨0, 0, bit, 0⟩ else ⟨0, 0, 0, bit⟩

/-- The bytes for which a test holds. -/
def ofTest (test : Char → Bool) : ByteSet :=
  (List.range 256).foldl
    (fun s n => if test (Char.ofNat n) then s.union (single (UInt8.ofNat n)) else s) none

/-- The bytes from one to another. -/
def range (lo hi : Char) : ByteSet := ofTest fun c => lo ≤ c && c ≤ hi

/-- The byte of a character. -/
def ofChar (c : Char) : ByteSet := single (byteOf c)

/-- A set with small and capital letters taken as the same. -/
def caseless (s : ByteSet) : ByteSet :=
  ofTest fun c => s.contains (byteOf (toSmall c)) || s.contains (byteOf (toCapital c))

end ByteSet

end LexicalModel.Command
