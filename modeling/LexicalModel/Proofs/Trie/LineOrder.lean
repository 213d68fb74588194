import LexicalModel.Proofs.Trie.Ranking
import Mathlib.Data.List.Sort

/-!
# The order of lines makes no difference

Words are counted in the order in which they come up, and entries keep that order on their way into
the leaves.  But leaves and labels are sorted by rank, so in the end the order of lines shows only
where entries have one rank: words that differ in case and are counted alike.  Where there are none,
the same lines in another order give the same trie, character by character.

* `Trie.Node.Alike` : nodes that are the same but for the order of entries of one rank
* `Trie.alike_build` : nodes built from permuted entries
* `Trie.Node.Alike.eq` : alike nodes without entries of one rank
* `Trie.permuted_lines_alike` : tries of permuted lines
-/

namespace LexicalModel

namespace Trie

mutual

/-- Nodes that are the same but for the order of entries of one rank within leaves. -/
inductive Node.Alike : Node → Node → Prop
  /-- Leaves with the same entries, where those at the same place have one weight and key. -/
  | leaf {w : UInt64} {es es' : List Entry} : es.Perm es' → es.map Entry.rank = es'.map Entry.rank →
      Node.Alike (.leaf w es) (.leaf w es')
  /-- Nodes with the same weight, values and labels, and children that are alike. -/
  | internal {w : UInt64} {values : List Char} {children children' : List (Char × Node)} :
      ChildrenAlike children children' →
      Node.Alike (.internal w values children) (.internal w values children')

/-- Children under the same labels that are alike one by one. -/
inductive ChildrenAlike : List (Char × Node) → List (Char × Node) → Prop
  /-- No children. -/
  | nil : ChildrenAlike [] []
  /-- One more child. -/
  | cons {c : Char} {n n' : Node} {rest rest' : List (Char × Node)} :
      n.Alike n' → ChildrenAlike rest rest' → ChildrenAlike ((c, n) :: rest) ((c, n') :: rest')

end

/-! ### Building from permuted entries -/

theorem Node.Alike.weight_eq {n n' : Node} (h : n.Alike n') : n.weight = n'.weight := by
  cases h <;> rfl

theorem alike_leaf {es es' : List Entry} (h : es.Perm es') : (leaf es).Alike (leaf es') := by
  have hperm : (es.mergeSort entryLe).Perm (es'.mergeSort entryLe) :=
    (List.mergeSort_perm es _).trans (h.trans (List.mergeSort_perm es' _).symm)
  rw [leaf_eq, leaf_eq, bestWeight_perm h]
  exact .leaf hperm (map_rank_mergeSort entryLe_iff h)

theorem ChildrenAlike.weighted_eq {children children' : List (Char × Node)}
    (h : ChildrenAlike children children') : weighted children = weighted children' := by
  induction children generalizing children' with
  | nil =>
    cases h
    rfl
  | cons p rest ih =>
    cases h with
    | cons hn hrest =>
      have hrest' := ih hrest
      simp only [weighted, List.map_cons] at hrest' ⊢
      rw [hn.weight_eq, hrest']

/-- Weight and values of a node that splits depend on the weights of its children alone. -/
theorem alike_internal {children children' : List (Char × Node)}
    (h : ChildrenAlike children children') : (internal children).Alike (internal children') := by
  rw [internal_eq, internal_eq, h.weighted_eq]
  exact .internal h

theorem childrenAlike_map {f g : Char → Node} {cs : List Char}
    (h : ∀ c ∈ cs, (f c).Alike (g c)) :
    ChildrenAlike (cs.map fun c => (c, f c)) (cs.map fun c => (c, g c)) := by
  induction cs with
  | nil => exact .nil
  | cons c cs ih =>
    exact .cons (h c List.mem_cons_self) (ih fun d hd => h d (List.mem_cons_of_mem _ hd))

theorem labels_perm {es es' : List Entry} (h : es.Perm es') (depth : Nat) :
    labels depth es = labels depth es' := by
  refine (sorted_labels depth es).eq_of_mem_iff (sorted_labels depth es') fun c => ?_
  rw [mem_labels, mem_labels]
  simp only [h.mem_iff]

theorem group_perm {es es' : List Entry} (h : es.Perm es') (depth : Nat) (c : Char) :
    (group depth es c).Perm (group depth es' c) :=
  h.filter _

/-- **Permuted entries build alike nodes.** -/
theorem alike_build (maxLeaf depth : Nat) {es es' : List Entry} (h : es.Perm es') :
    (build maxLeaf depth es).Alike (build maxLeaf depth es') := by
  -- Both sides have the same number of entries and the same labels, so they split together.
  induction depth, es using build.induct maxLeaf generalizing es' with
  | case1 depth es hle =>
    rw [build_of_le hle, build_of_le (h.length_eq ▸ hle)]
    exact alike_leaf h
  | case2 depth es hle ih =>
    have hlt := not_le.1 hle
    rw [build_of_lt hlt, build_of_lt (h.length_eq ▸ hlt), ← labels_perm h]
    refine alike_internal (childrenAlike_map fun c hc => ?_)
    unfold childNode
    split_ifs with hend
    · exact alike_leaf (group_perm h depth c)
    · exact ih c hc hend (group_perm h depth c)

/-! ### Entries of one rank -/

/-- No two of some entries have one rank. -/
def RanksDiffer (es : List Entry) : Prop := ∀ a ∈ es, ∀ b ∈ es, a.rank = b.rank → a = b

theorem RanksDiffer.subset {es es' : List Entry} (h : RanksDiffer es) (hsub : es' ⊆ es) :
    RanksDiffer es' :=
  fun a ha b hb => h a (hsub ha) b (hsub hb)

theorem eq_of_ranks {es es' : List Entry} (h : ∀ a ∈ es, ∀ b ∈ es', a.rank = b.rank → a = b)
    (hranks : es.map Entry.rank = es'.map Entry.rank) : es = es' := by
  induction es generalizing es' with
  | nil => simpa using hranks.symm
  | cons e es ih =>
    cases es' with
    | nil => cases hranks
    | cons e' es' =>
      obtain ⟨hrank, hrest⟩ := List.cons_eq_cons.1 hranks
      have hfirst := h e List.mem_cons_self e' List.mem_cons_self hrank
      have hmore := ih (fun a ha b hb => h a (List.mem_cons_of_mem _ ha) b
        (List.mem_cons_of_mem _ hb)) hrest
      rw [hfirst, hmore]

mutual

/-- **Alike nodes are equal where no two entries have one rank.** -/
theorem Node.Alike.eq {n n' : Node} (h : n.Alike n') (hdiffer : RanksDiffer n.entries) :
    n = n' := by
  cases h with
  | leaf hperm hranks =>
    refine congrArg _ (eq_of_ranks (fun a ha b hb => ?_) hranks)
    exact hdiffer a ha b (hperm.mem_iff.2 hb)
  | internal hchildren => rw [hchildren.eq hdiffer]

theorem ChildrenAlike.eq {children children' : List (Char × Node)}
    (h : ChildrenAlike children children') (hdiffer : RanksDiffer (childrenEntries children)) :
    children = children' := by
  cases h with
  | nil => rfl
  | cons hn hrest =>
    rw [childrenEntries] at hdiffer
    rw [hn.eq (hdiffer.subset (List.subset_append_left _ _)),
      hrest.eq (hdiffer.subset (List.subset_append_right _ _))]

end

/-! ### Tries of permuted lines -/

/-- No two words have one key and were counted alike. -/
def ToldApart (lower : String → String) (counted : List WordCount) : Prop :=
  ∀ u ∈ counted.map WordCount.word, ∀ v ∈ counted.map WordCount.word, lower u = lower v →
    WordList.countOf u counted = WordList.countOf v counted → u = v

instance (lower : String → String) (counted : List WordCount) :
    Decidable (ToldApart lower counted) :=
  inferInstanceAs (Decidable (∀ u ∈ _, ∀ v ∈ _, _ → _ → _))

/-- Counts that wrap around may be the same where their sums as numbers are not. -/
example : ¬ToldApart Text.lowercase
    [⟨"Ab", 5⟩, ⟨"aB", 18446744073709551615⟩, ⟨"aB", 6⟩] := by decide +kernel

/-- Words that are told apart have entries of different ranks. -/
theorem HoldsWords.ranksDiffer {lower : String → String} {counted : List WordCount} {total : Nat}
    {t : Trie} (h : t.HoldsWords lower (counted.map WordCount.word)
      (fun w => (WordList.countOf w counted).toNat) total) (happart : ToldApart lower counted) :
    RanksDiffer t.root.entries := by
  intro a ha b hb hrank
  obtain ⟨hweight, hkey⟩ := rankOf_inj.1 hrank
  obtain ⟨hwa, hka, hca⟩ := (h.mem_iff a).1 ha
  obtain ⟨hwb, hkb, hcb⟩ := (h.mem_iff b).1 hb
  have hcontent : a.content = b.content := by
    refine happart _ hwa _ hwb ?_ ?_
    · rw [← hka, ← hkb, hkey]
    · rw [← UInt64.toNat_inj, ← hca, ← hcb, hweight]
  cases a
  cases b
  simp_all

variable {maxLeaf : Nat} {lists lists' : List SourceFile} {t t' : Trie}

theorem totalWeight_of_perm {lower : String → String}
    (h : ofWordLists lower maxLeaf lists = .ok t) (h' : ofWordLists lower maxLeaf lists' = .ok t')
    (hperm : (WordList.countedIn lists).Perm (WordList.countedIn lists')) :
    t.totalWeight = t'.totalWeight := by
  rw [eq_ofCounts_of_ofWordLists h, eq_ofCounts_of_ofWordLists h', totalWeight_ofCounts,
    totalWeight_ofCounts, WordList.sumOf_tally, WordList.sumOf_tally]
  exact WordList.sumOf_perm hperm

theorem alike_of_perm {lower : String → String}
    (h : ofWordLists lower maxLeaf lists = .ok t) (h' : ofWordLists lower maxLeaf lists' = .ok t')
    (hperm : (WordList.countedIn lists).Perm (WordList.countedIn lists')) :
    t.root.Alike t'.root := by
  rw [eq_ofCounts_of_ofWordLists h, eq_ofCounts_of_ofWordLists h']
  exact alike_build maxLeaf 0 ((WordList.tally_perm hperm).map _)

/-- **The same lines in another order give an alike trie of the same total weight**, and where words
are told apart the same text. -/
theorem permuted_lines_alike
    (h : ofWordLists Text.lowercase (max maxLeaf 1) lists = .ok t)
    (h' : ofWordLists Text.lowercase (max maxLeaf 1) lists' = .ok t')
    (hperm : (WordList.countedIn lists).Perm (WordList.countedIn lists')) :
    t.totalWeight = t'.totalWeight ∧ t.root.Alike t'.root ∧
      (ToldApart Text.lowercase (WordList.countedIn lists) →
        literal maxLeaf lists = literal maxLeaf lists') := by
  have htotal := totalWeight_of_perm h h' hperm
  have halike := alike_of_perm h h' hperm
  refine ⟨htotal, halike, fun happart => ?_⟩
  have hholds : t.HoldsWords Text.lowercase _ _ _ :=
    eq_ofCounts_of_ofWordLists h ▸ holdsWords_ofCounts (WordList.countedIn lists)
  have hroot := halike.eq (hholds.ranksDiffer happart)
  have hsame : t = t' := by
    cases t
    cases t'
    simp_all
  rw [literal_of_ofWordLists h, literal_of_ofWordLists h', hsame]

/-- Four lines of one list stand in two lists in another order.  Two of the words have one key, but
different counts, and one of these wraps around. -/
theorem permuted_lines_same_text :
    literal 1 [⟨.ofText "a.tsv", "Ab\t18446744073709551615\nb\nab\nAb\t3\n"⟩] =
      literal 1 [⟨.ofText "b.tsv", "Ab\t3\nb"⟩,
        ⟨.ofText "c.tsv", "# more\nab\nAb\t18446744073709551615"⟩] := by
  have hread : WordList.readAll
      [⟨.ofText "a.tsv", "Ab\t18446744073709551615\nb\nab\nAb\t3\n"⟩] =
      .ok [⟨"Ab", 18446744073709551615⟩, ⟨"b", 1⟩, ⟨"ab", 1⟩, ⟨"Ab", 3⟩] := rfl
  have hread' : WordList.readAll [⟨.ofText "b.tsv", "Ab\t3\nb"⟩,
      ⟨.ofText "c.tsv", "# more\nab\nAb\t18446744073709551615"⟩] =
      .ok [⟨"Ab", 3⟩, ⟨"b", 1⟩, ⟨"ab", 1⟩, ⟨"Ab", 18446744073709551615⟩] := rfl
  have hcounted := WordList.eq_countedIn hread
  have hcounted' := WordList.eq_countedIn hread'
  obtain ⟨-, -, hsame⟩ := permuted_lines_alike
    (ofWordLists_of_readAll hread Text.lowercase (max 1 1))
    (ofWordLists_of_readAll hread' Text.lowercase (max 1 1))
    (by rw [← hcounted, ← hcounted']; decide)
  refine hsame ?_
  rw [← hcounted]
  decide

end Trie

end LexicalModel
