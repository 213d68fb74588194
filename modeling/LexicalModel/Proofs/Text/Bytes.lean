import LexicalModel.Text.Utf8
import Mathlib.Data.List.Basic
import Mathlib.Tactic.SplitIfs

/-!
# Texts and their bytes

A text and its bytes determine each other.  Bytes that are no text are shown with replacement
characters, so what is shown without one is the text that the bytes are.

* `text?_eq_some_iff`, `charBytes_injective` : a text and its bytes determine each other
* `mem_charBytes_iff` : a character of one byte stands where its byte stands
* `exists_eq_append` : a text whose bytes end in those of another ends in that one
* `front_encodeChar`, `eq_append_of_front` : the reader of one character reads what is written
* `lossy_bytes`, `lossy_eq_iff` : what is shown of bytes
-/

namespace LexicalModel.Text.Utf8

open String (utf8EncodeChar)

/-! ### Texts as lists of bytes -/

@[simp] theorem charBytes_nil : charBytes [] = [] := rfl

theorem charBytes_cons (c : Char) (cs : List Char) :
    charBytes (c :: cs) = utf8EncodeChar c ++ charBytes cs := by
  rw [charBytes, List.flatMap_cons, charBytes]

@[simp] theorem charBytes_append (cs ds : List Char) :
    charBytes (cs ++ ds) = charBytes cs ++ charBytes ds := List.flatMap_append

@[simp] theorem bytes_ofList (cs : List Char) : bytes (String.ofList cs) = charBytes cs := by
  rw [bytes, String.toList_ofList]

@[simp] theorem bytes_append (s t : String) : bytes (s ++ t) = bytes s ++ bytes t := by
  rw [bytes, String.toList_append, charBytes_append, bytes, bytes]

theorem bytes_eq_toList (s : String) : bytes s = s.toByteArray.data.toList := by
  have h : (String.ofList s.toList).toByteArray.data.toList = charBytes s.toList := by
    rw [String.toByteArray_ofList, List.utf8Encode, List.toList_data_toByteArray, charBytes]
  rw [bytes, ← h, String.ofList_toList]

/-- **The text that bytes are is the one with these bytes.** -/
theorem text?_eq_some_iff {bs : List UInt8} {s : String} : text? bs = some s ↔ bs = bytes s := by
  have heq : bs = bytes s ↔ s.toByteArray = ⟨bs.toArray⟩ := by
    rw [bytes_eq_toList]
    constructor
    · rintro rfl
      rw [Array.toArray_toList]
    · intro h
      rw [h]
  rw [heq, text?, String.fromUTF8?]
  split_ifs with h
  · rw [Option.some.injEq, ← String.toByteArray_inj]
    exact eq_comm
  · refine iff_of_false (by simp) fun hs => h (hs ▸ s.isValidUTF8)

@[simp] theorem text?_bytes (s : String) : text? (bytes s) = some s := text?_eq_some_iff.2 rfl

/-- The bytes are those of a text. -/
def IsText (bs : List UInt8) : Prop := ∃ s, bs = bytes s

theorem bytes_injective : Function.Injective bytes := fun s t h => by
  have hs := text?_bytes s
  rw [h, text?_bytes] at hs
  exact (Option.some.inj hs).symm

theorem charBytes_injective : Function.Injective charBytes := fun cs ds h =>
  String.ofList_injective (bytes_injective (by rw [bytes_ofList, bytes_ofList, h]))

/-! ### The bytes of a character -/

/-- The first byte of the character of a code point. -/
def leadByte (v : Nat) : Nat :=
  if v ≤ 127 then v
  else if v ≤ 2047 then v / 64 % 32 + 192
  else if v ≤ 65535 then v / 4096 % 16 + 224
  else v / 262144 % 8 + 240

/-- The byte with the last six bits of a number. -/
def tailByte (v : Nat) : UInt8 := UInt8.ofNat (v % 64 + 128)

/-- The bytes after the first one. -/
def tailBytes (v : Nat) : List UInt8 :=
  if v ≤ 127 then []
  else if v ≤ 2047 then [tailByte v]
  else if v ≤ 65535 then [tailByte (v / 64), tailByte v]
  else [tailByte (v / 4096), tailByte (v / 64), tailByte v]

theorem encodeChar_eq (c : Char) :
    utf8EncodeChar c = UInt8.ofNat (leadByte c.val.toNat) :: tailBytes c.val.toNat := by
  unfold utf8EncodeChar leadByte tailBytes
  simp only
  split_ifs <;> rfl

theorem leadByte_lt (v : Nat) : leadByte v < 256 := by
  unfold leadByte
  split_ifs <;> omega

theorem toNat_lead (v : Nat) : (UInt8.ofNat (leadByte v)).toNat = leadByte v := by
  rw [UInt8.toNat_ofNat', Nat.mod_eq_of_lt (leadByte_lt v)]

theorem toNat_tailByte (v : Nat) : (tailByte v).toNat = v % 64 + 128 := by
  rw [tailByte, UInt8.toNat_ofNat', Nat.mod_eq_of_lt (by omega)]

theorem leadByte_not_tail (v : Nat) : leadByte v < 128 ∨ 192 ≤ leadByte v := by
  unfold leadByte
  split_ifs <;> omega

theorem bounds_of_mem_tailBytes {v : Nat} {b : UInt8} (h : b ∈ tailBytes v) :
    128 ≤ b.toNat ∧ b.toNat < 192 := by
  unfold tailBytes at h
  split_ifs at h <;> simp only [List.mem_cons, List.not_mem_nil, or_false] at h
  · rw [h, toNat_tailByte]
    omega
  · rcases h with rfl | rfl <;> rw [toNat_tailByte] <;> omega
  · rcases h with rfl | rfl | rfl <;> rw [toNat_tailByte] <;> omega

theorem mem_encodeChar_iff {c d : Char} (hc : c.val.toNat < 128) :
    UInt8.ofNat c.val.toNat ∈ utf8EncodeChar d ↔ c = d := by
  have hbyte : (UInt8.ofNat c.val.toNat).toNat = c.val.toNat := by
    rw [UInt8.toNat_ofNat', Nat.mod_eq_of_lt (by omega)]
  rw [encodeChar_eq, List.mem_cons]
  constructor
  · rintro (h | h)
    · have hlead : c.val.toNat = leadByte d.val.toNat := by rw [← hbyte, h, toNat_lead]
      unfold leadByte at hlead
      split_ifs at hlead <;> try omega
      exact Char.ext (UInt32.toNat_inj.1 hlead)
    · have := bounds_of_mem_tailBytes h
      omega
  · rintro rfl
    rw [leadByte, if_pos (by omega)]
    exact .inl rfl

/-- **A character of one byte stands in a text where its byte stands in the bytes.** -/
theorem mem_charBytes_iff {c : Char} (hc : c.val.toNat < 128) {cs : List Char} :
    UInt8.ofNat c.val.toNat ∈ charBytes cs ↔ c ∈ cs := by
  simp only [charBytes, List.mem_flatMap, mem_encodeChar_iff hc, exists_eq_right']

/-- **A text whose bytes end in those of another ends in that one**: no character starts inside of
another. -/
theorem exists_eq_append {cs ds : List Char} {bs : List UInt8}
    (h : charBytes cs = bs ++ charBytes ds) : ∃ es, cs = es ++ ds := by
  induction cs generalizing bs with
  | nil =>
    have hds : charBytes ds = charBytes [] := (List.append_eq_nil_iff.1 h.symm).2
    exact ⟨[], (charBytes_injective hds).symm⟩
  | cons c cs ih =>
    rw [charBytes_cons] at h
    -- the other text starts after the first character, or somewhere in it
    rcases List.append_eq_append_iff.1 h with ⟨rest, -, hrest⟩ | ⟨rest, hc, hds⟩
    · obtain ⟨es, rfl⟩ := ih hrest
      exact ⟨c :: es, rfl⟩
    · cases bs with
      | nil =>
        rw [← charBytes_cons] at h
        exact ⟨[], charBytes_injective h⟩
      | cons a bs =>
        cases rest with
        | nil => exact ⟨[c], by rw [charBytes_injective hds]; rfl⟩
        | cons b rest =>
          -- the other text would start with a byte that continues `c`
          rw [encodeChar_eq, List.cons_append] at hc
          have hb : b ∈ tailBytes c.val.toNat := by
            rw [(List.cons.inj hc).2]
            simp
          have hbounds := bounds_of_mem_tailBytes hb
          cases ds with
          | nil => cases hds
          | cons d ds =>
            rw [charBytes_cons, encodeChar_eq, List.cons_append, List.cons_append] at hds
            have hlead := leadByte_not_tail d.val.toNat
            rw [← toNat_lead, (List.cons.inj hds).1] at hlead
            omega

/-! ### Reading a character -/

theorem isTail_iff {b : UInt8} : isTail b = true ↔ 128 ≤ b.toNat ∧ b.toNat ≤ 191 := by
  simp [isTail, UInt8.le_iff_toNat_le]

theorem isSecondOfThree_iff {a b : UInt8} : isSecondOfThree a b = true ↔
    isTail b = true ∧ (a.toNat = 224 → 160 ≤ b.toNat) ∧ (a.toNat = 237 → b.toNat ≤ 159) := by
  rw [isTail_iff]
  simp only [isSecondOfThree, isTail, ← UInt8.toNat_inj, UInt8.le_iff_toNat_le]
  split_ifs <;> simp_all <;> omega

theorem isSecondOfFour_iff {a b : UInt8} : isSecondOfFour a b = true ↔
    isTail b = true ∧ (a.toNat = 240 → 144 ≤ b.toNat) ∧ (a.toNat = 244 → b.toNat ≤ 143) := by
  rw [isTail_iff]
  simp only [isSecondOfFour, isTail, ← UInt8.toNat_inj, UInt8.le_iff_toNat_le]
  split_ifs <;> simp_all <;> omega

theorem tailBits_add {b : UInt8} (h : isTail b = true) :
    tailBits b + 128 = b.toNat ∧ tailBits b < 64 := by
  have := isTail_iff.1 h
  unfold tailBits
  omega

theorem tailByte_eq {b : UInt8} (h : isTail b = true) {v : Nat} (hv : v % 64 = tailBits b) :
    tailByte v = b := by
  rw [← UInt8.toNat_inj, toNat_tailByte, hv, (tailBits_add h).1]

theorem encodeChar_ofNat {a : UInt8} {v : Nat} {tail : List UInt8} (h : v.isValidChar)
    (hlead : leadByte v = a.toNat) (htail : tailBytes v = tail) :
    utf8EncodeChar (Char.ofNat v) = a :: tail := by
  have hv : (Char.ofNat v).val.toNat = v := by
    rw [Char.ofNat, dif_pos h]
    rfl
  rw [encodeChar_eq, hv, hlead, htail, UInt8.ofNat_toNat]

theorem encodeChar_one {a : UInt8} (ha : a.toNat ≤ 127) :
    utf8EncodeChar (Char.ofNat a.toNat) = [a] :=
  encodeChar_ofNat (.inl (by omega)) (if_pos ha) (if_pos ha)

theorem encodeChar_two {a b : UInt8} (ha : 194 ≤ a.toNat ∧ a.toNat ≤ 223)
    (hb : isTail b = true) :
    utf8EncodeChar (Char.ofNat (a.toNat % 32 * 64 + tailBits b)) = [a, b] := by
  have hbits := tailBits_add hb
  generalize hv : a.toNat % 32 * 64 + tailBits b = v
  have hlead : leadByte v = a.toNat := by
    rw [leadByte, if_neg (by omega), if_pos (by omega)]
    omega
  have htail : tailBytes v = [b] := by
    rw [tailBytes, if_neg (by omega), if_pos (by omega), tailByte_eq hb (by omega)]
  exact encodeChar_ofNat (.inl (by omega)) hlead htail

theorem encodeChar_three {a b c : UInt8} (ha : 224 ≤ a.toNat ∧ a.toNat ≤ 239)
    (hb : isSecondOfThree a b = true) (hc : isTail c = true) :
    utf8EncodeChar (Char.ofNat ((a.toNat % 16 * 64 + tailBits b) * 64 + tailBits c)) =
      [a, b, c] := by
  obtain ⟨hb, hlow, hhigh⟩ := isSecondOfThree_iff.1 hb
  have hbits := tailBits_add hb
  have hbits' := tailBits_add hc
  generalize hv : (a.toNat % 16 * 64 + tailBits b) * 64 + tailBits c = v
  have hlead : leadByte v = a.toNat := by
    rw [leadByte, if_neg (by omega), if_neg (by omega), if_pos (by omega)]
    omega
  have htail : tailBytes v = [b, c] := by
    rw [tailBytes, if_neg (by omega), if_neg (by omega), if_pos (by omega),
      tailByte_eq hb (by omega), tailByte_eq hc (by omega)]
  -- the bounds on the second byte keep the surrogates out
  have hvalid : v.isValidChar := by
    unfold Nat.isValidChar
    omega
  exact encodeChar_ofNat hvalid hlead htail

theorem encodeChar_four {a b c d : UInt8} (ha : 240 ≤ a.toNat ∧ a.toNat ≤ 244)
    (hb : isSecondOfFour a b = true) (hc : isTail c = true) (hd : isTail d = true) :
    utf8EncodeChar (Char.ofNat
      (((a.toNat % 8 * 64 + tailBits b) * 64 + tailBits c) * 64 + tailBits d)) =
      [a, b, c, d] := by
  obtain ⟨hb, hlow, hhigh⟩ := isSecondOfFour_iff.1 hb
  have hbits := tailBits_add hb
  have hbits' := tailBits_add hc
  have hbits'' := tailBits_add hd
  generalize hv : ((a.toNat % 8 * 64 + tailBits b) * 64 + tailBits c) * 64 + tailBits d = v
  have hlead : leadByte v = a.toNat := by
    rw [leadByte, if_neg (by omega), if_neg (by omega), if_neg (by omega)]
    omega
  have htail : tailBytes v = [b, c, d] := by
    rw [tailBytes, if_neg (by omega), if_neg (by omega), if_neg (by omega),
      tailByte_eq hb (by omega), tailByte_eq hc (by omega), tailByte_eq hd (by omega)]
  exact encodeChar_ofNat (.inr (by omega)) hlead htail

/-- **What is read as a character are the bytes of this character.** -/
theorem eq_append_of_front {a : UInt8} {bs : List UInt8} {c : Char} {size : Nat}
    (h : front a bs = .char c size) : a :: bs = utf8EncodeChar c ++ bs.drop (size - 1) := by
  revert h
  -- the cases that give a character differ in the number of its bytes
  fun_cases front a bs
  case case1 ha =>
    rintro ⟨⟩
    have ha : a.toNat < 128 := UInt8.lt_iff_toNat_lt.1 ha
    rw [encodeChar_one (by omega)]
    rfl
  case case3 _ ha b rest hb =>
    rintro ⟨⟩
    rw [encodeChar_two (by simpa [UInt8.le_iff_toNat_le] using ha) hb]
    rfl
  case case7 _ _ ha b hb c rest hc =>
    rintro ⟨⟩
    rw [encodeChar_three (by simpa [UInt8.le_iff_toNat_le] using ha) hb hc]
    rfl
  case case13 _ _ _ ha b hb c hc d rest hd =>
    rintro ⟨⟩
    rw [encodeChar_four (by simpa [UInt8.le_iff_toNat_le] using ha) hb hc hd]
    rfl
  all_goals
    intro h
    cases h

theorem isTail_tailByte (v : Nat) : isTail (tailByte v) = true := by
  rw [isTail_iff, toNat_tailByte]
  omega

theorem tailBits_tailByte (v : Nat) : tailBits (tailByte v) = v % 64 := by
  have := tailBits_add (isTail_tailByte v)
  rw [toNat_tailByte] at this
  omega

theorem front_one {a : UInt8} (ha : a.toNat ≤ 127) (bs : List UInt8) :
    front a bs = .char (Char.ofNat a.toNat) 1 := by
  simp only [front.eq_def a, UInt8.lt_iff_toNat_lt, UInt8.reduceToNat]
  rw [if_pos (by omega)]

theorem front_two {a b : UInt8} (ha : 194 ≤ a.toNat ∧ a.toNat ≤ 223) (hb : isTail b = true)
    (bs : List UInt8) :
    front a (b :: bs) = .char (Char.ofNat (a.toNat % 32 * 64 + tailBits b)) 2 := by
  simp only [front, UInt8.lt_iff_toNat_lt, UInt8.le_iff_toNat_le, Bool.and_eq_true,
    decide_eq_true_eq, UInt8.reduceToNat]
  rw [if_neg (by omega), if_pos ha, if_pos hb]

theorem front_three {a b c : UInt8} (ha : 224 ≤ a.toNat ∧ a.toNat ≤ 239)
    (hb : isSecondOfThree a b = true) (hc : isTail c = true) (bs : List UInt8) :
    front a (b :: c :: bs) =
      .char (Char.ofNat ((a.toNat % 16 * 64 + tailBits b) * 64 + tailBits c)) 3 := by
  simp only [front, UInt8.lt_iff_toNat_lt, UInt8.le_iff_toNat_le, Bool.and_eq_true,
    decide_eq_true_eq, UInt8.reduceToNat]
  rw [if_neg (by omega), if_neg (by omega), if_pos ha, if_pos hb, if_pos hc]

theorem front_four {a b c d : UInt8} (ha : 240 ≤ a.toNat ∧ a.toNat ≤ 244)
    (hb : isSecondOfFour a b = true) (hc : isTail c = true) (hd : isTail d = true)
    (bs : List UInt8) :
    front a (b :: c :: d :: bs) =
      .char (Char.ofNat
        (((a.toNat % 8 * 64 + tailBits b) * 64 + tailBits c) * 64 + tailBits d)) 4 := by
  simp only [front, UInt8.lt_iff_toNat_lt, UInt8.le_iff_toNat_le, Bool.and_eq_true,
    decide_eq_true_eq, UInt8.reduceToNat]
  rw [if_neg (by omega), if_neg (by omega), if_neg (by omega), if_pos ha, if_pos hb, if_pos hc,
    if_pos hd]

/-- **The bytes of a character are read as this character**, whatever follows them. -/
theorem front_encodeChar (c : Char) (bs : List UInt8) :
    front (UInt8.ofNat (leadByte c.val.toNat)) (tailBytes c.val.toNat ++ bs) =
      .char c ((tailBytes c.val.toNat).length + 1) := by
  have hc : ∀ v, v = c.val.toNat → Char.ofNat v = c := by
    rintro _ rfl
    exact Char.ofNat_toNat c
  have hvalid : c.val.toNat < 55296 ∨ 57343 < c.val.toNat ∧ c.val.toNat < 1114112 := c.valid
  have hlead := toNat_lead c.val.toNat
  generalize c.val.toNat = v at hc hvalid hlead ⊢
  generalize UInt8.ofNat (leadByte v) = a at hlead ⊢
  have hbits := tailBits_tailByte v
  have hbits' := tailBits_tailByte (v / 64)
  have hbits'' := tailBits_tailByte (v / 4096)
  unfold leadByte at hlead
  unfold tailBytes
  -- the first byte tells how many follow, and these hold the bits that it has not
  split_ifs at hlead ⊢
  · rw [front_one (by omega), hc _ (by omega)]
    rfl
  · rw [List.singleton_append, front_two (by omega) (isTail_tailByte _), hc _ (by omega)]
    rfl
  · have hsecond : isSecondOfThree a (tailByte (v / 64)) = true := by
      rw [isSecondOfThree_iff, toNat_tailByte]
      exact ⟨isTail_tailByte _, by omega, by omega⟩
    rw [List.cons_append, List.singleton_append,
      front_three (by omega) hsecond (isTail_tailByte _), hc _ (by omega)]
    rfl
  · have hsecond : isSecondOfFour a (tailByte (v / 4096)) = true := by
      rw [isSecondOfFour_iff, toNat_tailByte]
      exact ⟨isTail_tailByte _, by omega, by omega⟩
    rw [List.cons_append, List.cons_append, List.singleton_append,
      front_four (by omega) hsecond (isTail_tailByte _) (isTail_tailByte _), hc _ (by omega)]
    rfl

/-! ### What is shown of bytes -/

theorem lossyChars_skip (skip : Nat) (bs : List UInt8) :
    lossyChars skip bs = lossyChars 0 (bs.drop skip) := by
  induction bs generalizing skip with
  | nil => rw [List.drop_nil, lossyChars, lossyChars]
  | cons a bs ih =>
    cases skip with
    | zero => rfl
    | succ skip => exact ih skip

theorem lossyChars_encodeChar (c : Char) (bs : List UInt8) :
    lossyChars 0 (utf8EncodeChar c ++ bs) = c :: lossyChars 0 bs := by
  rw [encodeChar_eq, List.cons_append, lossyChars, front_encodeChar]
  simp only [Nat.add_sub_cancel]
  rw [lossyChars_skip, List.drop_left]

theorem lossyChars_charBytes (cs : List Char) : lossyChars 0 (charBytes cs) = cs := by
  induction cs with
  | nil => rfl
  | cons c cs ih => rw [charBytes_cons, lossyChars_encodeChar, ih]

/-- Bytes that are shown without a replacement character are those of what is shown. -/
theorem eq_charBytes_of_lossyChars : ∀ bs : List UInt8, '�' ∉ lossyChars 0 bs →
    bs = charBytes (lossyChars 0 bs)
  | [], _ => rfl
  | a :: bs, h => by
    rw [lossyChars] at h ⊢
    cases hfront : front a bs with
    | char c size =>
      simp only [hfront, lossyChars_skip (size - 1)] at h ⊢
      have hrest := eq_charBytes_of_lossyChars (bs.drop (size - 1))
        fun hmem => h (List.mem_cons_of_mem _ hmem)
      rw [charBytes_cons, ← hrest, eq_append_of_front hfront]
    | invalid size => simp [hfront] at h
    | incomplete => simp [hfront] at h
  termination_by bs => bs.length
  decreasing_by
    rw [List.length_drop, List.length_cons]
    omega

/-- **A text is shown as it is.** -/
@[simp] theorem lossy_bytes (s : String) : lossy (bytes s) = s := by
  rw [lossy, bytes, lossyChars_charBytes, String.ofList_toList]

/-- **A text without replacement characters is shown for its own bytes only.** -/
theorem lossy_eq_iff {bs : List UInt8} {s : String} (h : '�' ∉ s.toList) :
    lossy bs = s ↔ bs = bytes s := by
  constructor
  · rintro rfl
    rw [lossy, String.toList_ofList] at h
    rw [lossy, bytes_ofList]
    exact eq_charBytes_of_lossyChars bs h
  · rintro rfl
    exact lossy_bytes s

end LexicalModel.Text.Utf8
