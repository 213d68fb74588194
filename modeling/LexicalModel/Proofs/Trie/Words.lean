import LexicalModel.Proofs.Trie.Search
import LexicalModel.Proofs.Trie.Written
import LexicalModel.Proofs.WordList.Faults
import Mathlib.Algebra.Order.BigOperators.Group.List
import Mathlib.Algebra.Order.Group.Nat

/-!
# The words of a trie

The trie of word lists holds one entry for every word that stands on some line, however the lines
are spread over the lists and however the words are spread over the leaves.  The weight of the entry
is the sum of all counts of the word, as long as 64 bits are enough for it.

* `Trie.HoldsWords` : a trie holds words with their weights
* `WordList.countOfOn` : the sum of the counts of a word on some lines
* `Trie.eq_ofCounts_of_ofWordLists` : the trie of lists is that of what their lines say
* `Trie.literal_holds_words` : the trie that is written holds the words of the lists
-/

namespace LexicalModel

namespace WordList

/-- The words on some lines. -/
def wordsOn (lines : List (List Char)) : List String := lines.map fun line => .ofList (wordOn line)

/-- The sum of all counts on some lines. -/
def sumOn (lines : List (List Char)) : Nat := (lines.map countOn).sum

/-- The sum of the counts of a word on some lines. -/
def countOfOn (w : String) (lines : List (List Char)) : Nat :=
  sumOn (lines.filter fun line => String.ofList (wordOn line) = w)

/-- Wrapping around at every step is wrapping around once. -/
theorem sumOf_map_countedOn (lines : List (List Char)) :
    sumOf (lines.map countedOn) = UInt64.ofNat (sumOn lines) := by
  induction lines with
  | nil => rfl
  | cons line lines ih =>
    have hsum : sumOn (line :: lines) = countOn line + sumOn lines := List.sum_cons
    rw [List.map_cons, sumOf_cons, ih, hsum, UInt64.ofNat_add]
    rfl

theorem countOf_map_countedOn (w : String) (lines : List (List Char)) :
    countOf w (lines.map countedOn) = UInt64.ofNat (countOfOn w lines) := by
  rw [countOf, List.filter_map, sumOf_map_countedOn]
  rfl

theorem countOfOn_le_sumOn (w : String) (lines : List (List Char)) :
    countOfOn w lines ≤ sumOn lines :=
  (List.filter_sublist.map countOn).sum_le_sum fun _ _ => Nat.zero_le _

/-- Where 64 bits are enough for all counts together, nothing wraps around. -/
theorem toNat_sumOf {lines : List (List Char)} (h : sumOn lines < UInt64.size) :
    (sumOf (lines.map countedOn)).toNat = sumOn lines := by
  rw [sumOf_map_countedOn, UInt64.toNat_ofNat_of_lt' h]

theorem toNat_countOf {lines : List (List Char)} (h : sumOn lines < UInt64.size) (w : String) :
    (countOf w (lines.map countedOn)).toNat = countOfOn w lines := by
  have hlt := Nat.lt_of_le_of_lt (countOfOn_le_sumOn w lines) h
  rw [countOf_map_countedOn, UInt64.toNat_ofNat_of_lt' hlt]

end WordList

namespace Trie

/-- A trie holds words with the given weights, each once. -/
structure HoldsWords (lower : String → String) (words : List String) (weightOf : String → Nat)
    (total : Nat) (t : Trie) : Prop where
  /-- No word has two entries. -/
  distinct : (t.root.entries.map Entry.content).Nodup
  /-- The entries are those of the words, under their lower-case form and with their weights. -/
  mem_iff : ∀ e, e ∈ t.root.entries ↔
    e.content ∈ words ∧ e.key = lower e.content ∧ e.weight.toNat = weightOf e.content
  /-- The total is the given one. -/
  total : t.totalWeight.toNat = total

variable {lower : String → String} {maxLeaf : Nat}

theorem content_entryOf (cs : List WordCount) :
    (cs.map (entryOf lower)).map Entry.content = cs.map WordCount.word := by
  rw [List.map_map]
  rfl

theorem entries_ofCounts (cs : List WordCount) :
    (ofCounts lower maxLeaf cs).root.entries.Perm (cs.map (entryOf lower)) :=
  entries_build maxLeaf 0 _

theorem totalWeight_ofCounts (cs : List WordCount) :
    (ofCounts lower maxLeaf cs).totalWeight = WordList.sumOf cs := by
  simp only [ofCounts, List.foldr_map]
  rfl

theorem mem_entries_tally {counted : List WordCount} {e : Entry} :
    e ∈ (WordList.tally counted).map (entryOf lower) ↔
      e.content ∈ counted.map WordCount.word ∧ e.key = lower e.content ∧
        e.weight = WordList.countOf e.content counted := by
  constructor
  · -- no word comes twice in a tally, so the count beside a word is all that was counted of it
    intro h
    obtain ⟨c, hc, rfl⟩ := List.mem_map.1 h
    have hcount := WordList.countOf_of_distinct (WordList.distinct_tally counted) hc
    rw [WordList.countOf_tally] at hcount
    exact ⟨WordList.mem_words_tally.1 (List.mem_map_of_mem hc), rfl, hcount.symm⟩
  · rintro ⟨hword, hkey, hweight⟩
    obtain ⟨c, hc, hcontent⟩ := List.mem_map.1 (WordList.mem_words_tally.2 hword)
    have hcount := WordList.countOf_of_distinct (WordList.distinct_tally counted) hc
    rw [WordList.countOf_tally, hcontent] at hcount
    refine List.mem_map.2 ⟨c, hc, ?_⟩
    cases e
    simp_all [entryOf]

/-- The trie of a tally holds the words that were counted. -/
theorem holdsWords_ofCounts (counted : List WordCount) :
    (ofCounts lower maxLeaf (WordList.tally counted)).HoldsWords lower
      (counted.map WordCount.word) (fun w => (WordList.countOf w counted).toNat)
      (WordList.sumOf counted).toNat where
  distinct := by
    rw [((entries_ofCounts _).map Entry.content).nodup_iff, content_entryOf]
    exact WordList.distinct_tally counted
  mem_iff e := by
    rw [(entries_ofCounts _).mem_iff, mem_entries_tally, UInt64.toNat_inj]
  total := by rw [totalWeight_ofCounts, WordList.sumOf_tally]

theorem literal_of_ofWordLists {lists : List SourceFile} {t : Trie}
    (h : ofWordLists Text.lowercase (max maxLeaf 1) lists = .ok t) :
    literal maxLeaf lists = .ok t.toJson.compact := by
  rw [literal, h]
  rfl

/-- The trie of lists that are read is that of all that their lines say. -/
theorem eq_ofCounts_of_ofWordLists {lists : List SourceFile} {t : Trie}
    (h : ofWordLists lower maxLeaf lists = .ok t) :
    t = ofCounts lower maxLeaf (WordList.tally (WordList.countedIn lists)) := by
  obtain ⟨counted, hread, rfl⟩ := ofWordLists_eq_ok h
  rw [← WordList.eq_countedIn hread]

/-- **The trie that is written holds every word of the lists once**, with the sum of its counts, and
its total is the sum of all counts; the entries that it is built from stand in the order in which
their words come up first.  This is what the text shows when it is read back. -/
theorem literal_holds_words {lists : List SourceFile} {text : String}
    (h : literal maxLeaf lists = .ok text)
    (hfits : WordList.sumOn (WordList.wordLines lists) < UInt64.size) :
    ∃ (t : Trie) (entries : List Entry), read? text = some t ∧
      t.HoldsWords Text.lowercase (WordList.wordsOn (WordList.wordLines lists))
        (fun w => WordList.countOfOn w (WordList.wordLines lists))
        (WordList.sumOn (WordList.wordLines lists)) ∧
      entries = (WordList.tally (WordList.countedIn lists)).map (entryOf Text.lowercase) ∧
      t.root = build (max maxLeaf 1) 0 entries ∧
      WordList.InFirstOrder (WordList.wordsOn (WordList.wordLines lists))
        (entries.map Entry.content) := by
  obtain ⟨t, ht, htext⟩ := ok_of_bind h
  cases htext
  have hwords : (WordList.countedIn lists).map WordCount.word =
      WordList.wordsOn (WordList.wordLines lists) := by
    rw [WordList.countedIn_eq_map, List.map_map]
    rfl
  have hholds : t.HoldsWords Text.lowercase _ _ _ :=
    eq_ofCounts_of_ofWordLists ht ▸ holdsWords_ofCounts (WordList.countedIn lists)
  -- all counts together fit, and so does each sum on the way: nothing wraps around
  rw [hwords, WordList.countedIn_eq_map, WordList.toNat_sumOf hfits] at hholds
  simp only [WordList.toNat_countOf hfits] at hholds
  refine ⟨t, _, read?_compact t, hholds, rfl, ?_, ?_⟩
  · rw [eq_ofCounts_of_ofWordLists ht]
    rfl
  · rw [content_entryOf, ← hwords]
    exact WordList.inFirstOrder_tally _

/-- Two lists, the first after a byte order mark: a word in both, words that differ in case, a
comment, a line without a word, and counts that are absent, blank, zero and followed by more. -/
theorem literal_holds_scattered_words :
    ∃ text t, literal 1 [⟨.ofText "a.tsv", "\ufeffab\t5\r\n# no\t9\n\t7\nAb\t \n"⟩,
        ⟨.ofText "b.tsv", " zoo \t0\tx\nab\t+2\nac"⟩] = .ok text ∧ read? text = some t ∧
      t.totalWeight = 9 ∧ (t.root.entries.map Entry.content).Nodup ∧
      ∀ e ∈ [(⟨"ab", 7, "ab"⟩ : Entry), ⟨"ab", 1, "Ab"⟩, ⟨"zoo", 0, "zoo"⟩, ⟨"ac", 1, "ac"⟩],
        e ∈ t.root.entries := by
  have hread : WordList.readAll [⟨.ofText "a.tsv", "\ufeffab\t5\r\n# no\t9\n\t7\nAb\t \n"⟩,
      ⟨.ofText "b.tsv", " zoo \t0\tx\nab\t+2\nac"⟩] =
      .ok [⟨"ab", 5⟩, ⟨"Ab", 1⟩, ⟨"zoo", 0⟩, ⟨"ab", 2⟩, ⟨"ac", 1⟩] := rfl
  have hwritten := literal_of_ofWordLists (ofWordLists_of_readAll hread Text.lowercase (max 1 1))
  obtain ⟨t, entries, hshown, hholds, -⟩ := literal_holds_words hwritten (by decide +kernel)
  refine ⟨_, t, hwritten, hshown, ?_, hholds.distinct, ?_⟩
  · exact UInt64.toNat_inj.1 (hholds.total.trans (by decide +kernel))
  · simp only [hholds.mem_iff]
    decide +kernel

end Trie

end LexicalModel
