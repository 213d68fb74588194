import LexicalModel.Proofs.WordList.Faults
import Mathlib.Data.List.Basic

/-!
# Word lists one after the other

Words may come in one list or in several: lists that are put one after the other, with a line feed
between them, say the same as they do apart.  The line feed may end a line that had no ending, or
make a line of its own that says nothing.  It may also turn a carriage return at the end of a list
into part of an ending, but that is white space, which is trimmed off a line in either case.

* `WordList.saying?` : what a line says, its count not yet read
* `Text.filterMap_lines` : what is said between line feeds, however lines end
* `WordList.sayingsIn_joined` : lists say the same apart and one after the other
-/

namespace LexicalModel

/-! ### Lines and their endings -/

namespace Text

theorem trimChars_append_singleton (cs : List Char) {c : Char} (h : isBlank c = true) :
    trimChars (cs ++ [c]) = trimChars cs := by
  unfold trimChars
  rw [List.dropWhile_append]
  split_ifs with hempty
  · have hnil : cs.dropWhile isBlank = [] := by simpa using hempty
    rw [hnil, List.dropWhile_cons_of_pos h, List.dropWhile_nil]
  · rw [List.reverse_append, List.reverse_singleton, List.singleton_append,
      List.dropWhile_cons_of_pos h]

theorem dropFinalReturn_cases (line : List Char) :
    dropFinalReturn line = line ∨ line = dropFinalReturn line ++ ['\r'] := by
  unfold dropFinalReturn
  split_ifs with hlast
  · exact .inr (List.dropLast_append_getLast? '\r' hlast).symm
  · exact .inl rfl

/-- What is said on lines is said between line feeds, as long as empty lines say nothing and
carriage returns at the end do not count. -/
theorem filterMap_lines {β : Type} {f : List Char → Option β} (hempty : f [] = none)
    (hreturn : ∀ line, f (dropFinalReturn line) = f line) (cs : List Char) :
    (lines cs).filterMap f = (cs.splitOnP (· = '\n')).filterMap f := by
  unfold lines
  generalize cs.splitOnP (· = '\n') = pieces
  fun_induction linesOfPieces pieces with
  | case1 => rfl
  | case2 => simp [hempty]
  | case3 last hlast => rfl
  | case4 piece rest hrest ih => rw [List.filterMap_cons, List.filterMap_cons, hreturn, ih]

/-- Line feeds between texts cut them apart again. -/
theorem splitOnP_intercalate {ts : List (List Char)} (h : ts ≠ []) :
    (['\n'].intercalate ts).splitOnP (· = '\n') =
      ts.flatMap fun t => t.splitOnP (· = '\n') := by
  induction ts with
  | nil => exact absurd rfl h
  | cons t ts ih =>
    cases ts with
    | nil => rw [List.intercalate_singleton, List.flatMap_singleton]
    | cons u ts =>
      rw [List.intercalate_cons_cons, List.append_assoc, List.singleton_append,
        List.splitOnP_append_cons _ _ (by simp), ih (List.cons_ne_nil u ts)]
      rfl

end Text

namespace WordList

/-! ### What lines say -/

/-- What a line says, its count not yet read: its word, and what stands for its count. -/
def saying? (line : List Char) : Option (List Char × List Char) :=
  if HasWord line then some (wordOn line, rawCountOn line) else none

/-- The counted word that is said. -/
def countedOf (said : List Char × List Char) : WordCount :=
  ⟨String.ofList said.1, UInt64.ofNat (if said.2 = [] then 1 else numeral said.2)⟩

theorem counted?_eq (line : List Char) : counted? line = (saying? line).map countedOf := by
  unfold counted? saying?
  split_ifs <;> rfl

theorem badCount_iff {line : List Char} :
    BadCount line ↔ ∃ said ∈ saying? line, said.2 ≠ [] ∧ ¬IsNumeral said.2 := by
  unfold BadCount saying?
  split_ifs with hword <;> simp [hword]

/-- What the lines of several lists say, in order. -/
def sayingsIn (lists : List SourceFile) : List (List Char × List Char) :=
  lists.flatMap fun list => (linesOf list).filterMap saying?

theorem countedIn_eq (lists : List SourceFile) :
    countedIn lists = (sayingsIn lists).map countedOf := by
  have hcounted : counted? = fun line => (saying? line).map countedOf := funext counted?_eq
  simp only [countedIn, sayingsIn, List.map_flatMap, List.map_filterMap, hcounted]

theorem exists_atFault_iff {lists : List SourceFile} :
    (∃ list ∈ lists, AtFault list) ↔
      ∃ said ∈ sayingsIn lists, said.2 ≠ [] ∧ ¬IsNumeral said.2 := by
  simp only [AtFault, badCount_iff, sayingsIn, List.mem_flatMap, List.mem_filterMap]
  constructor
  · rintro ⟨list, hlist, line, hline, said, hsaid, hbad⟩
    exact ⟨said, ⟨list, hlist, line, hline, hsaid⟩, hbad⟩
  · rintro ⟨said, ⟨list, hlist, line, hline, hsaid⟩, hbad⟩
    exact ⟨list, hlist, line, hline, said, hsaid, hbad⟩

/-- Lists that say the same are read alike. -/
theorem readAll_congr {lists lists' : List SourceFile} (h : sayingsIn lists = sayingsIn lists')
    {counted : List WordCount} : readAll lists = .ok counted ↔ readAll lists' = .ok counted := by
  have hsound : ∀ lists : List SourceFile, (∀ list ∈ lists, ¬AtFault list) ↔
      ¬∃ said ∈ sayingsIn lists, said.2 ≠ [] ∧ ¬IsNumeral said.2 := by
    intro lists
    rw [← exists_atFault_iff]
    simp only [not_exists, not_and]
  rw [readAll_eq_ok_iff, readAll_eq_ok_iff, hsound, hsound, countedIn_eq, countedIn_eq, h]

/-! ### Carriage returns -/

/-- One more character at the end of a text is one more at the end of its front, or does not show
there. -/
theorem takeWhile_append_singleton (p : Char → Bool) (cs : List Char) (c : Char) :
    (cs ++ [c]).takeWhile p = cs.takeWhile p ∨
      (cs ++ [c]).takeWhile p = cs.takeWhile p ++ [c] := by
  induction cs with
  | nil => by_cases hc : p c = true <;> simp [hc]
  | cons d cs ih =>
    by_cases hd : p d = true
    · simpa [List.takeWhile_cons, hd] using ih
    · simp [hd]

theorem wordOn_append_return (line : List Char) : wordOn (line ++ ['\r']) = wordOn line := by
  unfold wordOn firstColumn
  rcases takeWhile_append_singleton (· ≠ '\t') line '\r' with h | h
  · rw [h]
  · rw [h, Text.trimChars_append_singleton _ (by decide)]

theorem rawCountOn_append_return (line : List Char) :
    rawCountOn (line ++ ['\r']) = rawCountOn line := by
  unfold rawCountOn secondColumn
  rw [List.dropWhile_append]
  cases hdrop : line.dropWhile (· ≠ '\t') with
  | nil => rfl -- no tab, no second column, with or without a carriage return
  | cons c rest =>
    change Text.trimChars ((rest ++ ['\r']).takeWhile (· ≠ '\t')) =
      Text.trimChars (rest.takeWhile (· ≠ '\t'))
    rcases takeWhile_append_singleton (· ≠ '\t') rest '\r' with h | h
    · rw [h]
    · rw [h, Text.trimChars_append_singleton _ (by decide)]

theorem hasWord_append_return {line : List Char} : HasWord (line ++ ['\r']) ↔ HasWord line := by
  unfold HasWord
  rw [wordOn_append_return, Text.trimChars_append_singleton line (by decide)]

theorem saying?_append_return (line : List Char) : saying? (line ++ ['\r']) = saying? line := by
  simp only [saying?, hasWord_append_return, wordOn_append_return, rawCountOn_append_return]

theorem saying?_dropFinalReturn (line : List Char) :
    saying? (Text.dropFinalReturn line) = saying? line := by
  rcases Text.dropFinalReturn_cases line with h | h
  · rw [h]
  · calc saying? (Text.dropFinalReturn line)
        = saying? (Text.dropFinalReturn line ++ ['\r']) := (saying?_append_return _).symm
      _ = saying? line := by rw [← h]

theorem filterMap_saying?_lines (cs : List Char) :
    (Text.lines cs).filterMap saying? = (cs.splitOnP (· = '\n')).filterMap saying? :=
  Text.filterMap_lines rfl saying?_dropFinalReturn cs

/-! ### Byte order marks -/

theorem dropMark_of_head {cs : List Char} (h : cs.head? ≠ some byteOrderMark) :
    dropMark cs = cs := by
  cases cs with
  | nil => rfl
  | cons c cs => exact if_neg fun hc => h (congrArg some hc)

/-- A mark in front of texts one after the other is a mark in front of the first. -/
theorem dropMark_intercalate (t : List Char) (ts : List (List Char)) :
    dropMark (['\n'].intercalate (t :: ts)) = ['\n'].intercalate (dropMark t :: ts) := by
  cases t with
  | nil =>
    cases ts with
    | nil => rfl
    | cons u ts =>
      rw [dropMark, List.intercalate_cons_cons]
      rfl
  | cons c t =>
    rw [List.intercalate_cons_cons_left, dropMark, dropMark]
    split_ifs
    · rfl
    · exact List.intercalate_cons_cons_left.symm

/-! ### Lists one after the other -/

/-- The lists one after the other, with a line feed between them. -/
def joined (path : Path) (lists : List SourceFile) : SourceFile :=
  ⟨path, "\n".intercalate (lists.map SourceFile.text)⟩

/-- **Lists say the same apart and one after the other**, if only the first starts with a mark. -/
theorem sayingsIn_joined (path : Path) (first : SourceFile) {rest : List SourceFile}
    (h : ∀ list ∈ rest, list.text.toList.head? ≠ some byteOrderMark) :
    sayingsIn [joined path (first :: rest)] = sayingsIn (first :: rest) := by
  have hrest : rest.map (fun list => dropMark list.text.toList) =
      rest.map fun list => list.text.toList :=
    List.map_congr_left fun list hlist => dropMark_of_head (h list hlist)
  have hchars : dropMark (joined path (first :: rest)).text.toList =
      ['\n'].intercalate ((first :: rest).map fun list => dropMark list.text.toList) := by
    rw [joined, String.toList_intercalate, List.map_map, List.map_cons, List.map_cons, hrest]
    exact dropMark_intercalate _ _
  have hlines : ∀ list : SourceFile, (linesOf list).filterMap saying? =
      ((dropMark list.text.toList).splitOnP (· = '\n')).filterMap saying? :=
    fun list => filterMap_saying?_lines _
  -- both sides are what is said between line feeds, of which those between texts are some
  unfold sayingsIn
  simp only [hlines, List.flatMap_singleton]
  rw [hchars, Text.splitOnP_intercalate (by simp), List.filterMap_flatMap, List.flatMap_map]

end WordList

end LexicalModel
