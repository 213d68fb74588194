import LexicalModel.Proofs.Trie.Words
import LexicalModel.Proofs.WordList.Joined

/-!
# The tries of word lists

Between word lists and the text of their trie, only the reading of the lists can fail.  So there is
a text just where no list is at fault, and it depends on nothing but what the lists say.

* `Trie.literal_eq_ok_iff` : when a trie is written
* `Trie.literal_fails_at_first_fault` : when none is, and what is reported
* `Trie.literal_joined` : lists may be put one after the other
-/

namespace LexicalModel

namespace Trie

open WordList (AtFault BadCount FirstFault failureAt linesOf rawCountOn wordOn)

variable (maxLeaf : Nat)

theorem literal_of_readAll {lists : List SourceFile} {counted : List WordCount}
    (h : WordList.readAll lists = .ok counted) :
    literal maxLeaf lists = .ok (ofCounts Text.lowercase (max maxLeaf 1)
      (WordList.tally counted)).toJson.compact :=
  literal_of_ofWordLists (ofWordLists_of_readAll h _ _)

theorem literal_eq_ok_iff {lists : List SourceFile} {text : String} :
    literal maxLeaf lists = .ok text ↔ ∃ counted, WordList.readAll lists = .ok counted ∧
      text = (ofCounts Text.lowercase (max maxLeaf 1) (WordList.tally counted)).toJson.compact := by
  constructor
  · intro h
    obtain ⟨t, ht, htext⟩ := ok_of_bind h
    obtain ⟨counted, hread, rfl⟩ := ofWordLists_eq_ok ht
    exact ⟨counted, hread, (Except.ok.inj htext).symm⟩
  · rintro ⟨counted, hread, rfl⟩
    exact literal_of_readAll maxLeaf hread

/-! ### Faults -/

theorem literal_of_firstFault {before : List SourceFile} {list : SourceFile}
    {front back : List (List Char)} {line : List Char}
    (h : FirstFault before list front line back) (after : List SourceFile) :
    literal maxLeaf (before ++ list :: after) =
      .error (failureAt list (front.length + 1) line) := by
  rw [literal, ofWordLists, WordList.readAll_of_firstFault h]
  rfl

/-- **No trie is written just where some count is no number**, and what is reported is the first
such line: the path of its list, its number among all lines of the list, what stands for its count,
and its word.  What comes after the line, in its list or in others, plays no part. -/
theorem literal_fails_at_first_fault :
    (∀ lists : List SourceFile, (∃ failure, literal maxLeaf lists = .error failure) ↔
      ∃ list ∈ lists, ∃ line ∈ linesOf list, BadCount line) ∧
    (∀ lists : List SourceFile, (∃ failure, literal maxLeaf lists = .error failure) →
      ∃ before list after front line back, lists = before ++ list :: after ∧
        FirstFault before list front line back) ∧
    ∀ (before : List SourceFile) (list : SourceFile) (after : List SourceFile)
      (front : List (List Char)) (line : List Char) (back : List (List Char)),
      FirstFault before list front line back →
      ∃ failure, literal maxLeaf (before ++ list :: after) = .error failure ∧
        failure = ⟨[.parseWordList list.path], .invalidCount (front.length + 1)
          (String.ofList (rawCountOn line)) (String.ofList (wordOn line))⟩ ∧
        failure.message = "parse word list " ++ list.path.text ++ ": line " ++
          toString (front.length + 1) ++ ": invalid count '" ++ String.ofList (rawCountOn line) ++
          "' for '" ++ String.ofList (wordOn line) ++ "'" := by
  have hfault : ∀ lists : List SourceFile, (∃ failure, literal maxLeaf lists = .error failure) →
      ∃ list ∈ lists, AtFault list := by
    rintro lists ⟨failure, h⟩
    by_contra hsound
    have hread := WordList.readAll_of_sound fun list hlist hfault => hsound ⟨list, hlist, hfault⟩
    cases (literal_of_readAll maxLeaf hread).symm.trans h
  refine ⟨fun lists => ⟨hfault lists, fun hbad => ?_⟩, fun lists h => ?_, ?_⟩
  · obtain ⟨before, list, after, front, line, back, rfl, hfirst⟩ := WordList.exists_firstFault hbad
    exact ⟨_, literal_of_firstFault maxLeaf hfirst after⟩
  · exact WordList.exists_firstFault (hfault lists h)
  · intro before list after front line back hfirst
    exact ⟨_, literal_of_firstFault maxLeaf hfirst after, rfl, WordList.message_failureAt ..⟩

/-- A fault on the third line of the second list, after a byte order mark, a blank line and a
comment whose second column is no number.  A later line and a later list are at fault too. -/
theorem literal_fails_at_late_fault :
    literal 1 [⟨.ofText "a.tsv", "a\t18446744073709551615\n# b\tx\n"⟩,
        ⟨.ofText "b.tsv", "\ufeff\r\n#\tno\nb\t+18446744073709551616 \r\nc\tx\n"⟩,
        ⟨.ofText "c.tsv", "c\t-1"⟩] =
      .error ⟨[.parseWordList (.ofText "b.tsv")], .invalidCount 3 "+18446744073709551616" "b"⟩ := by
  have hfirst : FirstFault [⟨.ofText "a.tsv", "a\t18446744073709551615\n# b\tx\n"⟩]
      ⟨.ofText "b.tsv", "\ufeff\r\n#\tno\nb\t+18446744073709551616 \r\nc\tx\n"⟩
      ["".toList, "#\tno".toList] "b\t+18446744073709551616 ".toList ["c\tx".toList] :=
    ⟨by decide, by decide, by decide, by decide⟩
  obtain ⟨failure, hfailure, rfl, -⟩ :=
    (literal_fails_at_first_fault 1).2.2 _ _ [⟨.ofText "c.tsv", "c\t-1"⟩] _ _ _ hfirst
  exact hfailure

/-! ### Lists one after the other -/

/-- **One list or several makes no difference.**  Lists that are put one after the other give a trie
just where they do apart, and then the same text.  Only the first of them may start with a byte
order mark. -/
theorem literal_joined (path : Path) (first : SourceFile) {rest : List SourceFile}
    (h : ∀ list ∈ rest, list.text.toList.head? ≠ some WordList.byteOrderMark) (text : String) :
    literal maxLeaf (first :: rest) = .ok text ↔
      literal maxLeaf [WordList.joined path (first :: rest)] = .ok text := by
  have hsame := WordList.sayingsIn_joined path first h
  simp only [literal_eq_ok_iff, WordList.readAll_congr hsame]

/-- A text that starts with a mark and ends with a bare carriage return, an empty text, a comment
without a line end, and a text with a final line feed. -/
theorem literal_joined_ragged :
    ∃ text, literal 1 [⟨.ofText "a.tsv", "\ufeffa\t5\r\nb\t\r"⟩, ⟨.ofText "b.tsv", ""⟩,
        ⟨.ofText "c.tsv", "# c\tx"⟩, ⟨.ofText "d.tsv", "a\n"⟩] = .ok text ∧
      literal 1 [⟨.ofText "all.tsv", "\ufeffa\t5\r\nb\t\r\n\n# c\tx\na\n"⟩] = .ok text := by
  have hread : WordList.readAll [⟨.ofText "a.tsv", "\ufeffa\t5\r\nb\t\r"⟩, ⟨.ofText "b.tsv", ""⟩,
      ⟨.ofText "c.tsv", "# c\tx"⟩, ⟨.ofText "d.tsv", "a\n"⟩] =
      .ok [⟨"a", 5⟩, ⟨"b", 1⟩, ⟨"a", 1⟩] := rfl
  have hjoined : "\n".intercalate ["\ufeffa\t5\r\nb\t\r", "", "# c\tx", "a\n"] =
      "\ufeffa\t5\r\nb\t\r\n\n# c\tx\na\n" := by decide
  have hapart := literal_of_readAll 1 hread
  have hone := (literal_joined 1 (.ofText "all.tsv") _ (by decide) _).1 hapart
  simp only [WordList.joined, List.map_cons, List.map_nil, hjoined] at hone
  exact ⟨_, hapart, hone⟩

end Trie

end LexicalModel
