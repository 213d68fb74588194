import LexicalModel.Proofs.Failure
import LexicalModel.WordList
import Mathlib.Data.List.TakeWhile

/-!
# What word lists say

`WordList.read` cuts a list into lines and lines into columns, and stops at the first count that is
none.  Here the same is said line by line, without reading: which lines have a word, which word that
is, and what it counts.

* `WordList.HasWord`, `WordList.wordOn`, `WordList.countOn` : what a line says
* `WordList.countedIn`, `WordList.wordLines` : what the lines of several lists say, in order
* `WordList.readLine_cases` : what becomes of a line
-/

namespace LexicalModel

namespace WordList

/-! ### Columns -/

/-- The first column of a line: all of it up to the first tab. -/
def firstColumn (line : List Char) : List Char := line.takeWhile (· ≠ '\t')

/-- The second column of a line: what stands between the first two tabs, nothing where there is no
tab. -/
def secondColumn (line : List Char) : List Char :=
  ((line.dropWhile (· ≠ '\t')).drop 1).takeWhile (· ≠ '\t')

/-- A line is its first column, or that with a tab and more columns after it. -/
theorem columns_cases (line : List Char) :
    (line.splitOnP (· = '\t') = [firstColumn line] ∧ secondColumn line = []) ∨
      ∃ rest, line.splitOnP (· = '\t') = firstColumn line :: rest.splitOnP (· = '\t') ∧
        secondColumn line = firstColumn rest := by
  have hfirst : ∀ c ∈ firstColumn line, decide (c = '\t') = false := by
    intro c hc
    simpa using List.mem_takeWhile_imp hc
  have hline : firstColumn line ++ line.dropWhile (· ≠ '\t') = line :=
    List.takeWhile_append_dropWhile
  cases hdrop : line.dropWhile (· ≠ '\t') with
  | nil =>
    rw [hdrop, List.append_nil] at hline
    left
    refine ⟨?_, by rw [secondColumn, hdrop]; rfl⟩
    rw [hline] at hfirst
    rw [hline]
    exact List.splitOnP_eq_singleton hfirst
  | cons c rest =>
    have hc : c = '\t' := by
      have hhead := List.head?_dropWhile_not (· ≠ '\t') line
      rw [hdrop] at hhead
      simpa using hhead
    right
    refine ⟨rest, ?_, by rw [secondColumn, hdrop]; rfl⟩
    calc line.splitOnP (· = '\t')
        = (firstColumn line ++ c :: rest).splitOnP (· = '\t') := by rw [← hdrop, hline]
      _ = firstColumn line :: rest.splitOnP (· = '\t') :=
          List.splitOnP_append_cons_of_forall_mem hfirst c (by simp [hc]) rest

theorem headD_columns (line : List Char) :
    (line.splitOnP (· = '\t')).headD [] = firstColumn line := by
  obtain ⟨h, -⟩ | ⟨rest, h, -⟩ := columns_cases line <;> simp [h]

theorem getD_columns (line : List Char) :
    ((line.splitOnP (· = '\t'))[1]?).getD [] = secondColumn line := by
  obtain ⟨h, hsecond⟩ | ⟨rest, h, hsecond⟩ := columns_cases line
  · simp [h, hsecond]
  · have hhead := headD_columns rest
    rw [List.headD_eq_head?_getD, List.head?_eq_getElem?] at hhead
    simp [h, hsecond, hhead]

/-! ### Numerals -/

/-- The number that the digits among some characters write. -/
def numeral (raw : List Char) : Nat := Nat.ofDigitChars 10 (raw.filter Char.isDigit) 0

/-- Decimal digits, at least one, after an optional plus sign, that write a number of 64 bits. -/
def IsNumeral (raw : List Char) : Prop :=
  ∃ digits, (raw = digits ∨ raw = '+' :: digits) ∧ digits ≠ [] ∧
    (∀ c ∈ digits, c.isDigit = true) ∧ numeral raw ≤ Json.maxUnsigned

theorem ofDigits_map_digitValue (cs : List Char) :
    Json.ofDigits (cs.map Json.digitValue) = Nat.ofDigitChars 10 cs 0 := by
  simp [Json.ofDigits, Json.digitValue, List.foldl_map, Nat.ofDigitChars_eq_foldl, Nat.mul_comm]

theorem numeral_of_digits {raw digits : List Char} (h : raw = digits ∨ raw = '+' :: digits)
    (hdigits : ∀ c ∈ digits, c.isDigit = true) : numeral raw = Nat.ofDigitChars 10 digits 0 := by
  have hplus : Char.isDigit '+' = false := rfl
  have hfilter : raw.filter Char.isDigit = digits := by
    rcases h with rfl | rfl
    · exact List.filter_eq_self.2 hdigits
    · rw [List.filter_cons, hplus]
      exact List.filter_eq_self.2 hdigits
  rw [numeral, hfilter]

/-- A plus sign is no digit, so characters have at most one sign in front of digits. -/
theorem count?_of_digits {raw digits : List Char} (h : raw = digits ∨ raw = '+' :: digits)
    (hne : digits ≠ []) (hdigits : ∀ c ∈ digits, c.isDigit = true) :
    count? raw =
      if numeral raw ≤ Json.maxUnsigned then some (UInt64.ofNat (numeral raw)) else none := by
  have hall : digits.all Char.isDigit = true := List.all_eq_true.2 hdigits
  rw [numeral_of_digits h hdigits, ← ofDigits_map_digitValue]
  rcases h with rfl | rfl
  · have hsign : raw.head? ≠ some '+' := by
      intro hhead
      exact absurd (hdigits '+' (List.mem_of_mem_head? hhead)) (by decide)
    unfold count?
    split
    · simp at hsign
    · simp [hne, hall]
  · simp [count?, hne, hall]

theorem count?_eq_some_iff {raw : List Char} {n : UInt64} :
    count? raw = some n ↔ IsNumeral raw ∧ n = UInt64.ofNat (numeral raw) := by
  constructor
  · intro h
    obtain ⟨digits, hraw, hdigits⟩ : ∃ digits, (raw = digits ∨ raw = '+' :: digits) ∧
        digits ≠ [] ∧ digits.all Char.isDigit = true := by
      unfold count? at h
      split at h
      · next rest =>
        refine ⟨rest, .inr rfl, ?_⟩
        by_contra hbad
        simp only [if_neg hbad, reduceCtorEq] at h
      · refine ⟨raw, .inl rfl, ?_⟩
        by_contra hbad
        simp only [if_neg hbad, reduceCtorEq] at h
    have hall := List.all_eq_true.1 hdigits.2
    rw [count?_of_digits hraw hdigits.1 hall] at h
    split_ifs at h with hle
    · exact ⟨⟨digits, hraw, hdigits.1, hall, hle⟩, (Option.some.inj h).symm⟩
  · rintro ⟨⟨digits, hraw, hne, hall, hle⟩, rfl⟩
    rw [count?_of_digits hraw hne hall, if_pos hle]

theorem count?_eq_none_iff {raw : List Char} : count? raw = none ↔ ¬IsNumeral raw := by
  constructor
  · intro h hnumeral
    have hsome := count?_eq_some_iff.2 ⟨hnumeral, rfl⟩
    rw [h] at hsome
    cases hsome
  · intro h
    cases hcount : count? raw with
    | none => rfl
    | some n => exact absurd (count?_eq_some_iff.1 hcount).1 h

/-! ### Lines -/

/-- The word on a line: the first column, trimmed. -/
def wordOn (line : List Char) : List Char := Text.trimChars (firstColumn line)

/-- What stands on a line for its count: the second column, trimmed. -/
def rawCountOn (line : List Char) : List Char := Text.trimChars (secondColumn line)

/-- The count on a line, which is one where none is written. -/
def countOn (line : List Char) : Nat :=
  if rawCountOn line = [] then 1 else numeral (rawCountOn line)

/-- What a line says that has a word. -/
def countedOn (line : List Char) : WordCount :=
  ⟨String.ofList (wordOn line), UInt64.ofNat (countOn line)⟩

/-- A line that has a word: it is not blank, no comment, and its first column is not blank. -/
def HasWord (line : List Char) : Prop :=
  Text.trimChars line ≠ [] ∧ (Text.trimChars line).head? ≠ some '#' ∧ wordOn line ≠ []

instance (line : List Char) : Decidable (HasWord line) :=
  inferInstanceAs (Decidable (_ ∧ _ ∧ _))

theorem isIdleLine_iff {line : List Char} :
    isIdleLine line = true ↔ Text.trimChars line = [] ∨ (Text.trimChars line).head? = some '#' := by
  unfold isIdleLine
  cases Text.trimChars line <;> simp

theorem trimChars_headD (line : List Char) :
    Text.trimChars ((line.splitOnP (· = '\t')).headD []) = wordOn line := by
  rw [headD_columns, wordOn]

theorem readLine_of_not_hasWord {line : List Char} (h : ¬HasWord line) (number : Nat) :
    readLine number line = .ok none := by
  by_cases hidle : isIdleLine line = true
  · rw [readLine, if_pos hidle]
  · have hword : wordOn line = [] := by
      by_contra hword
      obtain ⟨hne, hcomment⟩ := not_or.1 (mt isIdleLine_iff.2 hidle)
      exact h ⟨hne, hcomment, hword⟩
    simp only [readLine, if_neg hidle, trimChars_headD, hword, ↓reduceIte]

/-- No second column and a blank one come to the same. -/
theorem readLine_of_blank {line : List Char} (h : HasWord line) (hblank : rawCountOn line = [])
    (number : Nat) : readLine number line = .ok (some ⟨String.ofList (wordOn line), 1⟩) := by
  have hidle : ¬isIdleLine line = true := fun hidle => (isIdleLine_iff.1 hidle).elim h.1 h.2.1
  rw [rawCountOn, ← getD_columns] at hblank
  simp only [readLine, if_neg hidle, trimChars_headD, if_neg h.2.2]
  cases hsecond : (line.splitOnP (· = '\t'))[1]? with
  | none => rfl
  | some raw =>
    rw [hsecond, Option.getD_some] at hblank
    rw [Option.map_some, hblank]

theorem readLine_of_raw {line : List Char} (h : HasWord line) (hraw : rawCountOn line ≠ [])
    (number : Nat) :
    readLine number line =
      (count? (rawCountOn line)).elim
        (.error (.invalidCount number (String.ofList (rawCountOn line))
          (String.ofList (wordOn line))))
        fun n => .ok (some ⟨String.ofList (wordOn line), n⟩) := by
  have hidle : ¬isIdleLine line = true := fun hidle => (isIdleLine_iff.1 hidle).elim h.1 h.2.1
  rw [rawCountOn, ← getD_columns] at hraw ⊢
  simp only [readLine, if_neg hidle, trimChars_headD, if_neg h.2.2]
  cases hsecond : (line.splitOnP (· = '\t'))[1]? with
  | none =>
    rw [hsecond] at hraw
    exact absurd rfl hraw
  | some raw =>
    rw [hsecond, Option.getD_some] at hraw
    simp only [Option.map_some, Option.getD_some]
    cases count? (Text.trimChars raw) <;> rfl

/-- **What becomes of a line**: it has no word, or a word and a count, or a word and something else
where the count should be. -/
theorem readLine_cases (number : Nat) (line : List Char) :
    (¬HasWord line ∧ readLine number line = .ok none) ∨
    (HasWord line ∧ (rawCountOn line = [] ∨ IsNumeral (rawCountOn line)) ∧
      readLine number line = .ok (some (countedOn line))) ∨
    (HasWord line ∧ rawCountOn line ≠ [] ∧ ¬IsNumeral (rawCountOn line) ∧
      readLine number line = .error (.invalidCount number (String.ofList (rawCountOn line))
        (String.ofList (wordOn line)))) := by
  by_cases hword : HasWord line
  · right
    by_cases hblank : rawCountOn line = []
    · left
      refine ⟨hword, .inl hblank, ?_⟩
      rw [readLine_of_blank hword hblank, countedOn, countOn, if_pos hblank]
      rfl
    · have hread := readLine_of_raw hword hblank number
      by_cases hnumeral : IsNumeral (rawCountOn line)
      · left
        refine ⟨hword, .inr hnumeral, ?_⟩
        rw [hread, count?_eq_some_iff.2 ⟨hnumeral, rfl⟩, countedOn, countOn, if_neg hblank]
        rfl
      · right
        refine ⟨hword, hblank, hnumeral, ?_⟩
        rw [hread, count?_eq_none_iff.2 hnumeral]
        rfl
  · left
    exact ⟨hword, readLine_of_not_hasWord hword number⟩

/-! ### Lists -/

/-- What a line says. -/
def counted? (line : List Char) : Option WordCount :=
  if HasWord line then some (countedOn line) else none

/-- The lines of a list, without a byte order mark in front. -/
def linesOf (list : SourceFile) : List (List Char) := Text.lines (dropMark list.text.toList)

/-- What the lines of several lists say, in order. -/
def countedIn (lists : List SourceFile) : List WordCount :=
  lists.flatMap fun list => (linesOf list).filterMap counted?

/-- The lines of several lists that have a word, in order. -/
def wordLines (lists : List SourceFile) : List (List Char) :=
  lists.flatMap fun list => (linesOf list).filter fun line => HasWord line

theorem countedIn_eq_map (lists : List SourceFile) :
    countedIn lists = (wordLines lists).map countedOn := by
  have hlines : ∀ lines : List (List Char), lines.filterMap counted? =
      (lines.filter fun line => HasWord line).map countedOn := by
    intro lines
    induction lines with
    | nil => rfl
    | cons line lines ih =>
      by_cases hword : HasWord line <;> simp [counted?, hword, ih]
  simp only [countedIn, wordLines, hlines, List.map_flatMap]

end WordList

end LexicalModel
