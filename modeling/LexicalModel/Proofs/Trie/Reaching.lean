import LexicalModel.Proofs.Trie.Words

/-!
# Nodes below a node

Building goes down one label a level and keeps at each label the entries that have it there.  So a
node below a built node is itself built, from the entries that go along the labels on the way to it;
only below the label for the ends of keys building stops, and a leaf stands there however many
entries it gets.

That leaf is meant for keys that end where its parent splits.  But the label is a character, which a
key may go on with as well; such a key is put into the same leaf, and not split off again.

* `Trie.Node.Reaches` : the nodes below a node
* `Trie.along` : the entries that go along some labels
* `Trie.reaches_build` : what stands below a built node
* `Trie.overfull_leaf_shares_key_iff` : which leaves hold more entries than a leaf should
-/

namespace LexicalModel

namespace Trie

/-- The nodes below a node, with the labels on the way to them. -/
inductive Node.Reaches : Node → List Char → Node → Prop
  /-- The way without labels ends where it starts. -/
  | here (n : Node) : n.Reaches [] n
  /-- One label further down. -/
  | child {w : UInt64} {values : List Char} {children : List (Char × Node)} {c : Char}
      {path : List Char} {below n : Node} :
      (c, below) ∈ children → below.Reaches path n →
      (Node.internal w values children).Reaches (c :: path) n

theorem reaches_nil_iff {n m : Node} : n.Reaches [] m ↔ m = n := by
  constructor
  · intro h
    cases h
    rfl
  · rintro rfl
    exact .here _

theorem reaches_leaf_iff {es : List Entry} {path : List Char} {n : Node} :
    (leaf es).Reaches path n ↔ path = [] ∧ n = leaf es := by
  constructor
  · intro h
    cases h
    exact ⟨rfl, rfl⟩
  · rintro ⟨rfl, rfl⟩
    exact .here _

theorem reaches_internal_cons_iff {children : List (Char × Node)} {c : Char} {path : List Char}
    {n : Node} :
    (internal children).Reaches (c :: path) n ↔
      ∃ below, (c, below) ∈ children ∧ below.Reaches path n := by
  constructor
  · intro h
    cases h with
    | child hmem hbelow => exact ⟨_, hmem, hbelow⟩
  · rintro ⟨below, hmem, hbelow⟩
    exact .child hmem hbelow

/-! ### Entries along a way -/

/-- Whether an entry goes along some labels from a node of the given depth. -/
def goesAlong (e : Entry) : Nat → List Char → Bool
  | _, [] => true
  | depth, c :: path => labelAt depth e = c && goesAlong e (depth + 1) path

/-- The entries that go along some labels from a node of the given depth, in their order. -/
def along (depth : Nat) (path : List Char) (es : List Entry) : List Entry :=
  es.filter fun e => goesAlong e depth path

@[simp] theorem along_nil (depth : Nat) (es : List Entry) : along depth [] es = es := by
  simp [along, goesAlong]

theorem along_cons (depth : Nat) (c : Char) (path : List Char) (es : List Entry) :
    along depth (c :: path) es = along (depth + 1) path (group depth es c) := by
  rw [along, along, group, List.filter_filter]
  refine List.filter_congr fun e _ => ?_
  rw [goesAlong, Bool.and_comm]

theorem along_append_singleton (depth : Nat) (path : List Char) (c : Char) (es : List Entry) :
    along depth (path ++ [c]) es = group (depth + path.length) (along depth path es) c := by
  induction path generalizing depth es with
  | nil => rw [List.nil_append, along_cons, along_nil, along_nil]; rfl
  | cons d path ih =>
    have hdepth : depth + 1 + path.length = depth + (d :: path).length := by
      rw [List.length_cons]
      omega
    rw [List.cons_append, along_cons, ih, along_cons, hdepth]

/-- Which way an entry goes depends on its key alone. -/
theorem goesAlong_congr {d e : Entry} (h : d.key = e.key) (depth : Nat) (path : List Char) :
    goesAlong d depth path = goesAlong e depth path := by
  induction path generalizing depth with
  | nil => rfl
  | cons c path ih =>
    have hlabel : labelAt depth d = labelAt depth e := by rw [labelAt, labelAt, h]
    rw [goesAlong, goesAlong, hlabel, ih]

/-- Keys start with the labels on the way, as long as that is not the label for their ends. -/
theorem under_along {front path : List Char} {es : List Entry} (h : Under front es)
    (hpath : endOfKey ∉ path) : Under (front ++ path) (along front.length path es) := by
  induction path generalizing front es with
  | nil => simpa using h
  | cons c path ih =>
    obtain ⟨hc, hrest⟩ := not_or.1 (mt List.mem_cons.2 hpath)
    have hlength : front.length + 1 = (front ++ [c]).length := by simp
    have hgroup := h.group fun hend => hc hend.symm
    rw [along_cons, hlength, List.append_cons]
    exact ih hgroup hrest

/-! ### What stands below a built node -/

/-- **A node below a built node is built from the entries that go its way**, or a leaf of them under
the label for the ends of keys. -/
theorem reaches_build {maxLeaf depth : Nat} {es : List Entry} {path : List Char} {n : Node}
    (h : (build maxLeaf depth es).Reaches path n) :
    (endOfKey ∉ path ∧ n = build maxLeaf (depth + path.length) (along depth path es)) ∨
      ∃ front, path = front ++ [endOfKey] ∧ endOfKey ∉ front ∧ n = leaf (along depth path es) := by
  induction path generalizing depth es with
  | nil =>
    left
    simpa using reaches_nil_iff.1 h
  | cons c path ih =>
    rcases Nat.lt_or_ge maxLeaf es.length with hlt | hge
    · rw [build_of_lt hlt, reaches_internal_cons_iff] at h
      obtain ⟨below, hbelow, hreach⟩ := h
      obtain ⟨c', -, heq⟩ := List.mem_map.1 hbelow
      obtain ⟨rfl, rfl⟩ := Prod.mk.inj heq
      by_cases hend : c' = endOfKey
      · -- building stops here, so no label follows
        rw [childNode, if_pos hend, reaches_leaf_iff] at hreach
        obtain ⟨rfl, rfl⟩ := hreach
        right
        refine ⟨[], by simp [hend], by simp, ?_⟩
        rw [along_cons, along_nil]
      · rw [childNode, if_neg hend] at hreach
        have hne : endOfKey ≠ c' := fun h => hend h.symm
        obtain ⟨hpath, rfl⟩ | ⟨front, rfl, hfront, rfl⟩ := ih hreach
        · left
          refine ⟨by simp [hne, hpath], ?_⟩
          rw [along_cons, List.length_cons, Nat.add_assoc, Nat.add_comm 1]
        · right
          exact ⟨c' :: front, rfl, by simp [hne, hfront], by rw [along_cons]⟩
    · rw [build_of_le hge, reaches_leaf_iff] at h
      cases h.1

theorem length_along_le (depth : Nat) (path : List Char) (es : List Entry) :
    (along depth path es).length ≤ es.length :=
  List.length_filter_le _ _

/-- Conversely, more entries that go to an end of keys than a leaf should have are all found in a
leaf there. -/
theorem reaches_end_leaf {maxLeaf depth : Nat} {es : List Entry} {front : List Char}
    (hfront : endOfKey ∉ front)
    (h : maxLeaf < (along depth (front ++ [endOfKey]) es).length) :
    (build maxLeaf depth es).Reaches (front ++ [endOfKey])
      (leaf (along depth (front ++ [endOfKey]) es)) := by
  induction front generalizing depth es with
  | nil =>
    have hlt := Nat.lt_of_lt_of_le h (length_along_le ..)
    rw [List.nil_append, along_cons, along_nil] at h ⊢
    obtain ⟨e, he⟩ := List.exists_mem_of_length_pos (Nat.zero_lt_of_lt h)
    have hlabel := mem_labels.2 ⟨e, mem_group.1 he⟩
    rw [build_of_lt hlt, reaches_internal_cons_iff]
    refine ⟨_, List.mem_map.2 ⟨endOfKey, hlabel, rfl⟩, ?_⟩
    rw [childNode, if_pos rfl]
    exact .here _
  | cons c front ih =>
    obtain ⟨hc, hrest⟩ := not_or.1 (mt List.mem_cons.2 hfront)
    have hlt := Nat.lt_of_lt_of_le h (length_along_le ..)
    rw [List.cons_append, along_cons] at h ⊢
    obtain ⟨e, he⟩ := List.exists_mem_of_length_pos (Nat.zero_lt_of_lt h)
    have hlabel := mem_labels.2 ⟨e, mem_group.1 (List.mem_of_mem_filter he)⟩
    rw [build_of_lt hlt, reaches_internal_cons_iff]
    refine ⟨_, List.mem_map.2 ⟨c, hlabel, rfl⟩, ?_⟩
    rw [childNode, if_neg fun hend => hc hend.symm]
    exact ih hrest h

theorem entries_of_leaf_eq {es entries : List Entry} {w : UInt64} (h : leaf es = .leaf w entries) :
    entries = es.mergeSort entryLe := by
  cases h
  rfl

/-- A leaf that was not put under the label for the ends of keys has room for its entries. -/
theorem length_le_of_build {maxLeaf depth : Nat} {w : UInt64} {es entries : List Entry}
    (h : build maxLeaf depth es = .leaf w entries) : entries.length ≤ maxLeaf := by
  rcases Nat.lt_or_ge maxLeaf es.length with hlt | hge
  · rw [build_of_lt hlt] at h
    cases h
  · rw [build_of_le hge] at h
    rw [entries_of_leaf_eq h, List.length_mergeSort]
    exact hge

/-! ### Overfull leaves -/

/-- Where the label of an entry is that for the ends of keys, its key ends or goes on with it. -/
theorem key_of_labelAt_end {front : List Char} {e : Entry} (h : front <+: e.key.toList)
    (hlabel : labelAt front.length e = endOfKey) :
    e.key.toList = front ∨ front ++ [endOfKey] <+: e.key.toList := by
  obtain ⟨rest, hrest⟩ := h
  cases rest with
  | nil =>
    left
    rw [← hrest, List.append_nil]
  | cons c rest =>
    right
    have hc : labelAt front.length e = c :=
      labelAt_of_starts ⟨[], by rw [List.append_nil, hrest]⟩
    rw [← hrest, ← hlabel, hc]
    exact ⟨rest, by simp⟩

theorem key_of_mem_end_leaf {es : List Entry} {front : List Char} {e : Entry}
    (hfront : endOfKey ∉ front) (he : e ∈ along 0 (front ++ [endOfKey]) es) :
    e.key.toList = front ∨ front ++ [endOfKey] <+: e.key.toList := by
  have hunder : Under [] es := fun e _ => List.nil_prefix
  have halong := under_along hunder hfront
  rw [along_append_singleton, Nat.zero_add] at he
  obtain ⟨hmem, hlabel⟩ := mem_group.1 he
  exact key_of_labelAt_end (halong e hmem) hlabel

/-- **A leaf with more entries than a leaf should have stands under the label for the ends of
keys.**  The key of each of its entries is the way to its parent, or goes on from there with the
label itself; it is one key for all of them exactly if the label stands in none of the keys. -/
theorem overfull_leaf_shares_key_iff {lower : String → String} {maxLeaf : Nat}
    {lists : List SourceFile} {t : Trie} (h : ofWordLists lower maxLeaf lists = .ok t)
    {path : List Char} {w : UInt64} {entries : List Entry}
    (hreach : t.root.Reaches path (.leaf w entries)) (hfull : maxLeaf < entries.length) :
    ∃ front, path = front ++ [endOfKey] ∧
      (∀ e ∈ entries, e.key.toList = front ∨ front ++ [endOfKey] <+: e.key.toList) ∧
      ((∀ e ∈ entries, e.key = String.ofList front) ↔
        ∀ e ∈ entries, endOfKey ∉ e.key.toList) := by
  have hcounts := eq_ofCounts_of_ofWordLists h
  subst hcounts
  obtain ⟨-, hbuilt⟩ | ⟨front, rfl, hfront, hleaf⟩ := reaches_build hreach
  · -- anywhere else, so many entries would have been split
    have hroom := length_le_of_build hbuilt.symm
    omega
  have hkeys : ∀ e ∈ entries, e.key.toList = front ∨ front ++ [endOfKey] <+: e.key.toList := by
    intro e he
    rw [entries_of_leaf_eq hleaf.symm, List.mem_mergeSort] at he
    exact key_of_mem_end_leaf hfront he
  refine ⟨front, rfl, hkeys, ?_, ?_⟩
  · intro hall e he
    rw [hall e he, String.toList_ofList]
    exact hfront
  · intro hnone e he
    rcases hkeys e he with hkey | hgoes
    · rw [← hkey, String.ofList_toList]
    · exact absurd (hgoes.subset (by simp)) (hnone e he)

/-- Three words of one key, in leaves of one entry. -/
theorem overfull_leaf_of_one_key :
    ∃ t w entries, ofWordLists Text.lowercase 1 [⟨.ofText "w.tsv", "Ab\nAB\nb\nab\n"⟩] = .ok t ∧
      t.root.Reaches ['a', 'b', endOfKey] (.leaf w entries) ∧ 1 < entries.length ∧
      ∀ e ∈ entries, e.key = "ab" := by
  have hread : WordList.readAll [⟨.ofText "w.tsv", "Ab\nAB\nb\nab\n"⟩] =
      .ok [⟨"Ab", 1⟩, ⟨"AB", 1⟩, ⟨"b", 1⟩, ⟨"ab", 1⟩] := rfl
  have hbuilt := ofWordLists_of_readAll hread Text.lowercase 1
  have hreach := @reaches_end_leaf 1 0 ((WordList.tally [⟨"Ab", 1⟩, ⟨"AB", 1⟩, ⟨"b", 1⟩,
    ⟨"ab", 1⟩]).map (entryOf Text.lowercase)) ['a', 'b'] (by decide) (by decide)
  refine ⟨_, _, _, hbuilt, hreach, by rw [List.length_mergeSort]; decide, ?_⟩
  obtain ⟨front, hpath, -, hone⟩ := overfull_leaf_shares_key_iff hbuilt hreach
    (by rw [List.length_mergeSort]; decide)
  cases List.append_cancel_right hpath
  refine hone.2 ?_
  simp only [List.mem_mergeSort]
  decide

/-- Two words that start with the label for the ends of keys stay in one leaf, though a leaf should
have one entry, and their keys differ. -/
theorem overfull_leaf_of_two_keys :
    ∃ t w entries, ofWordLists Text.lowercase 1 [⟨.ofText "w.tsv", "\ufdd0a\n\ufdd0b\n"⟩] = .ok t ∧
      t.root.Reaches [endOfKey] (.leaf w entries) ∧ 1 < entries.length ∧
      ∃ d ∈ entries, ∃ e ∈ entries, d.key ≠ e.key := by
  have hread : WordList.readAll [⟨.ofText "w.tsv", "\ufdd0a\n\ufdd0b\n"⟩] =
      .ok [⟨"\ufdd0a", 1⟩, ⟨"\ufdd0b", 1⟩] := rfl
  have hbuilt := ofWordLists_of_readAll hread Text.lowercase 1
  have hreach := @reaches_end_leaf 1 0 ((WordList.tally [⟨"\ufdd0a", 1⟩, ⟨"\ufdd0b", 1⟩]).map
    (entryOf Text.lowercase)) [] (by decide) (by decide +kernel)
  refine ⟨_, _, _, hbuilt, hreach, by rw [List.length_mergeSort]; decide +kernel, ?_⟩
  simp only [List.mem_mergeSort]
  decide +kernel

end Trie

end LexicalModel
