import LexicalModel.Proofs.Tally
import LexicalModel.Proofs.Trie.Entries

/-!
# Looking words up

What a user has typed so far is looked up by going down from the root, one character a node, as long
as nodes split and characters are left.  The entries below the node that is reached are a superset
of the matches, from which the rest is sorted out.

The label for the ends of keys is a character like any other, which may stand in a key and may be
typed.  This does no harm: a leaf under that label holds all entries that have the label for either
reason, and looking up sorts them out.

* `Trie.Node.descend`, `Trie.Node.search` : looking up
* `Trie.search_exact` : the entries found are all entries whose key starts with what was typed
-/

namespace LexicalModel

namespace Trie

/-- The node that is reached from a node along characters; nothing where a node that splits has no
such label. -/
def Node.descend : Node → List Char → Option Node
  | .internal _ _ children, c :: cs => (children.lookup c).bind fun child => child.descend cs
  | n, _ => some n

/-- The entries below the node reached along what was typed whose key starts with that. -/
def Node.search (n : Node) (typed : String) : List Entry :=
  match n.descend typed.toList with
  | some m => m.entries.filter fun e => typed.toList <+: e.key.toList
  | none => []

@[simp] theorem descend_leaf (es : List Entry) (cs : List Char) :
    (leaf es).descend cs = some (leaf es) := by
  simp [leaf, Node.descend]

@[simp] theorem descend_nil (n : Node) : n.descend [] = some n := by
  cases n <;> rfl

theorem lookup_children {labels : List Char} (f : Char → Node) (c : Char) :
    (labels.map fun d => (d, f d)).lookup c = if c ∈ labels then some (f c) else none := by
  induction labels with
  | nil => simp
  | cons d ds ih =>
    rw [List.map_cons, List.lookup_cons, ih]
    by_cases h : c = d
    · simp [h]
    · simp [h, beq_false_of_ne h]

/-! ### Keys under a node -/

/-- The keys of the entries of a node agree with the labels on the way to it. -/
def Under (path : List Char) (es : List Entry) : Prop := ∀ e ∈ es, path <+: e.key.toList

theorem labelAt_of_starts {path cs : List Char} {c : Char} {e : Entry}
    (h : path ++ c :: cs <+: e.key.toList) : labelAt path.length e = c := by
  obtain ⟨rest, hrest⟩ := h
  simp [labelAt, ← hrest]

theorem labelAt_of_key_eq {path : List Char} {e : Entry} (h : e.key.toList = path) :
    labelAt path.length e = endOfKey := by
  simp [labelAt, h]

/-- One more character of the keys is known under a label other than the end of keys. -/
theorem Under.group {path : List Char} {es : List Entry} (h : Under path es) {c : Char}
    (hc : c ≠ endOfKey) : Under (path ++ [c]) (Trie.group path.length es c) := by
  intro e he
  obtain ⟨hmem, hlabel⟩ := mem_group.1 he
  obtain ⟨rest, hrest⟩ := h e hmem
  cases rest with
  | nil =>
    -- the key ends here, so its label would be the end of keys
    rw [List.append_nil] at hrest
    exact absurd (hlabel.symm.trans (labelAt_of_key_eq hrest.symm)) hc
  | cons d ds =>
    have hd : labelAt path.length e = d := labelAt_of_starts ⟨[], by rw [List.append_nil, hrest]⟩
    rw [← hrest, ← hlabel, hd]
    exact ⟨ds, by simp⟩

theorem filter_group {path cs : List Char} {c : Char} (es : List Entry) :
    (group path.length es c).filter (fun e => path ++ c :: cs <+: e.key.toList) =
      es.filter fun e => path ++ c :: cs <+: e.key.toList := by
  rw [group, List.filter_filter]
  refine List.filter_congr fun e _ => ?_
  by_cases h : path ++ c :: cs <+: e.key.toList
  · simp [h, labelAt_of_starts h]
  · simp [h]

/-- The entries found under a node, what was typed being the way to the node and more. -/
def found (n : Node) (path cs : List Char) : List Entry :=
  match n.descend cs with
  | some m => m.entries.filter fun e => path ++ cs <+: e.key.toList
  | none => []

/-- **Looking up below a built node finds the entries that match.** -/
theorem found_build (maxLeaf : Nat) {path : List Char} {es : List Entry} (h : Under path es)
    (cs : List Char) :
    (found (build maxLeaf path.length es) path cs).Perm
      (es.filter fun e => path ++ cs <+: e.key.toList) := by
  -- The characters are used up one a level, so the induction is on them and not on the node.
  induction cs generalizing path es with
  | nil =>
    simp only [found, descend_nil]
    exact (entries_build maxLeaf _ es).filter _
  | cons c cs ih =>
    rcases Nat.lt_or_ge maxLeaf es.length with hlt | hge
    · simp only [found, build_of_lt hlt, internal, Node.descend, lookup_children]
      split_ifs with hc
      · rw [Option.bind_some, ← filter_group es]
        unfold childNode
        split_ifs with hend
        · rw [descend_leaf]
          exact (List.mergeSort_perm _ _).filter _
        · have hrec := ih (h.group hend)
          simpa [found] using hrec
      · rw [Option.bind_none]
        have hnone : es.filter (fun e => path ++ c :: cs <+: e.key.toList) = [] := by
          rw [List.filter_eq_nil_iff]
          intro e he hp
          exact hc (mem_labels.2 ⟨e, he, labelAt_of_starts (by simpa using hp)⟩)
        rw [hnone]
    · rw [build_of_le hge]
      simp only [found, descend_leaf]
      exact (List.mergeSort_perm _ _).filter _

/-- Where what was typed ends at a node that splits, the entries of just that key stand under the
label for the ends of keys. -/
theorem mem_end_child (maxLeaf : Nat) {path : List Char} {es : List Entry} (h : Under path es)
    {cs : List Char} {w : UInt64} {values : List Char} {children : List (Char × Node)}
    (hd : (build maxLeaf path.length es).descend cs = some (.internal w values children))
    {e : Entry} (he : e ∈ es) (hkey : e.key.toList = path ++ cs) :
    ∃ child, children.lookup endOfKey = some child ∧ e ∈ child.entries := by
  induction cs generalizing path es with
  | nil =>
    rw [descend_nil, Option.some_inj] at hd
    rw [List.append_nil] at hkey
    rcases Nat.lt_or_ge maxLeaf es.length with hlt | hge
    · rw [build_of_lt hlt, internal] at hd
      obtain ⟨-, -, rfl⟩ := Node.internal.inj hd
      have hlabel := labelAt_of_key_eq hkey
      refine ⟨_, by rw [lookup_children, if_pos (mem_labels.2 ⟨e, he, hlabel⟩)], ?_⟩
      rw [childNode, if_pos rfl, entries_leaf, List.mem_mergeSort]
      exact mem_group.2 ⟨he, hlabel⟩
    · rw [build_of_le hge] at hd
      cases hd
  | cons c cs ih =>
    rcases Nat.lt_or_ge maxLeaf es.length with hlt | hge
    · have hlabel : labelAt path.length e = c :=
        labelAt_of_starts ⟨[], by rw [List.append_nil, hkey]⟩
      simp only [build_of_lt hlt, internal, Node.descend, lookup_children] at hd
      rw [if_pos (mem_labels.2 ⟨e, he, hlabel⟩), Option.bind_some, childNode] at hd
      split_ifs at hd with hend
      · rw [descend_leaf, Option.some_inj] at hd
        cases hd
      · have hlen : path.length + 1 = (path ++ [c]).length := by simp
        rw [hlen] at hd
        exact ih (h.group hend) hd (mem_group.2 ⟨he, hlabel⟩) (by simp [hkey])
    · rw [build_of_le hge, descend_leaf, Option.some_inj] at hd
      cases hd

/-! ### Looking up in the trie of word lists -/

theorem search_build (maxLeaf : Nat) (es : List Entry) (typed : String) :
    ((build maxLeaf 0 es).search typed).Perm
      (es.filter fun e => typed.toList <+: e.key.toList) := by
  have hunder : Under [] es := fun e _ => List.nil_prefix
  exact found_build maxLeaf hunder typed.toList

/-- The entries of word lists: one for every distinct word, with the sum of its counts. -/
def aggregated (lower : String → String) (counted : List WordCount) : Multiset Entry :=
  ((WordList.totals counted).map (entryOf lower) : List Entry)

theorem coe_entries_tally (lower : String → String) (counted : List WordCount) :
    (((WordList.tally counted).map (entryOf lower) : List Entry) : Multiset Entry) =
      aggregated lower counted :=
  Multiset.coe_eq_coe.2 ((WordList.tally_perm_totals counted).map _)

theorem ofWordLists_of_readAll {lists : List SourceFile} {counted : List WordCount}
    (h : WordList.readAll lists = .ok counted) (lower : String → String) (maxLeaf : Nat) :
    ofWordLists lower maxLeaf lists = .ok (ofCounts lower maxLeaf (WordList.tally counted)) := by
  rw [ofWordLists, h]
  rfl

theorem ofWordLists_eq_ok {lower : String → String} {maxLeaf : Nat} {lists : List SourceFile}
    {t : Trie} (h : ofWordLists lower maxLeaf lists = .ok t) :
    ∃ counted, WordList.readAll lists = .ok counted ∧
      t = ofCounts lower maxLeaf (WordList.tally counted) := by
  unfold ofWordLists at h
  cases hread : WordList.readAll lists with
  | error f => rw [hread] at h; cases h
  | ok counted =>
    rw [hread] at h
    exact ⟨counted, rfl, (Except.ok.inj h).symm⟩

theorem coe_search_ofCounts (lower : String → String) (maxLeaf : Nat) (counted : List WordCount)
    (typed : String) :
    (((ofCounts lower maxLeaf (WordList.tally counted)).root.search typed : List Entry) :
        Multiset Entry) =
      (aggregated lower counted).filter fun e => typed.toList <+: e.key.toList := by
  rw [← coe_entries_tally, Multiset.filter_coe, Multiset.coe_eq_coe]
  exact search_build maxLeaf _ typed

/-- **Looking up finds exactly the entries whose key starts with what was typed**, each once; those
whose key is just that stand under the label for the ends of keys where the search ends at a node
that splits; and how large leaves may be makes no difference. -/
theorem search_exact {lower : String → String} {maxLeaf : Nat} {lists : List SourceFile} {t : Trie}
    (h : ofWordLists lower maxLeaf lists = .ok t) :
    ∃ counted, WordList.readAll lists = .ok counted ∧ ∀ typed : String,
      ((t.root.search typed : List Entry) : Multiset Entry) =
          (aggregated lower counted).filter (fun e => typed.toList <+: e.key.toList) ∧
        (∀ w values children,
          t.root.descend typed.toList = some (.internal w values children) →
          ∀ e ∈ aggregated lower counted, e.key = typed →
            ∃ child, children.lookup endOfKey = some child ∧ e ∈ child.entries) ∧
        ∀ maxLeaf' t', ofWordLists lower maxLeaf' lists = .ok t' →
          (t'.root.search typed).Perm (t.root.search typed) := by
  obtain ⟨counted, hread, rfl⟩ := ofWordLists_eq_ok h
  refine ⟨counted, hread, fun typed => ⟨coe_search_ofCounts .., ?_, ?_⟩⟩
  · intro w values children hd e he hkey
    rw [← coe_entries_tally, Multiset.mem_coe] at he
    have hunder : Under [] ((WordList.tally counted).map (entryOf lower)) :=
      fun e _ => List.nil_prefix
    exact mem_end_child maxLeaf hunder hd he (by simp [hkey])
  · intro maxLeaf' t' h'
    obtain ⟨counted', hread', rfl⟩ := ofWordLists_eq_ok h'
    cases hread.symm.trans hread'
    rw [← Multiset.coe_eq_coe, coe_search_ofCounts, coe_search_ofCounts]

/-- Two lists with equal keys and keys that start others, in leaves of one entry. -/
theorem search_exact_shared_keys :
    ∃ t, ofWordLists Text.lowercase 1
        [⟨.ofText "a.tsv", "a\nab\t5\nac\t2\nAb\n"⟩, ⟨.ofText "b.tsv", "ab\t2\nabc"⟩] = .ok t ∧
      ((t.root.search "ab" : List Entry) : Multiset Entry) =
        {⟨"ab", 7, "ab"⟩, ⟨"ab", 1, "Ab"⟩, ⟨"abc", 1, "abc"⟩} := by
  have hread : WordList.readAll
      [⟨.ofText "a.tsv", "a\nab\t5\nac\t2\nAb\n"⟩, ⟨.ofText "b.tsv", "ab\t2\nabc"⟩] =
      .ok [⟨"a", 1⟩, ⟨"ab", 5⟩, ⟨"ac", 2⟩, ⟨"Ab", 1⟩, ⟨"ab", 2⟩, ⟨"abc", 1⟩] := rfl
  have hbuilt := ofWordLists_of_readAll hread Text.lowercase 1
  obtain ⟨counted, hread', hfound⟩ := search_exact hbuilt
  cases hread.symm.trans hread'
  refine ⟨_, hbuilt, (hfound "ab").1.trans ?_⟩
  decide

end Trie

end LexicalModel
