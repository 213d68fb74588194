import LexicalModel.Proofs.Trie.Reaching

/-!
# How deep tries are

Building calls itself for every group of entries, and a group may hold all entries of its node.
What gets less are the characters that are left of the keys: a key without any goes under the label
for the ends of keys, where nothing is called.  So there is an end to building, however many entries
share a key and however few a leaf may hold, and no more calls are open at a time than the longest
key has characters, and one.

What is said of calls here does not rest on `Trie.build` being a function: `Trie.Returns` has one
rule for each way in which a call ends, and calls that go on for ever return nothing by these rules.

* `Trie.Returns` : what a call returns
* `Trie.returns_build`, `Trie.Returns.eq_build` : every call returns, and what it returns
* `Trie.along_key_of_reaches` : the way to a leaf and the keys in it
* `Trie.build_returns_within_keys` : building ends, and no leaf lies deeper than its keys are long
-/

namespace LexicalModel

namespace Trie

/-! ### Calls -/

/-- A call on the entries of a node of some depth returns a node, with at most so many calls open at
a time. -/
inductive Returns (maxLeaf : Nat) : Nat → Nat → List Entry → Node → Prop
  /-- Few entries are a leaf. -/
  | fits {calls depth : Nat} {es : List Entry} :
    es.length ≤ maxLeaf → Returns maxLeaf (calls + 1) depth es (leaf es)
  /-- More are split.  The group of the label for the ends of keys is a leaf; each of the others is
  given to a call. -/
  | splits {calls depth : Nat} {es : List Entry} (child : Char → Node) :
    maxLeaf < es.length →
    (∀ c ∈ labels depth es, c = endOfKey → child c = leaf (group depth es c)) →
    (∀ c ∈ labels depth es, c ≠ endOfKey →
      Returns maxLeaf calls (depth + 1) (group depth es c) (child c)) →
    Returns maxLeaf (calls + 1) depth es (internal ((labels depth es).map fun c => (c, child c)))

variable {maxLeaf : Nat}

theorem Returns.mono {calls more depth : Nat} {es : List Entry} {n : Node}
    (h : Returns maxLeaf calls depth es n) (hle : calls ≤ more) :
    Returns maxLeaf more depth es n := by
  induction h generalizing more with
  | fits hfits =>
    obtain ⟨more, rfl⟩ := Nat.exists_eq_add_of_le' (Nat.le_of_add_left_le hle)
    exact .fits hfits
  | splits child hlt hend _ ih =>
    obtain ⟨more, rfl⟩ := Nat.exists_eq_add_of_le' (Nat.le_of_add_left_le hle)
    exact .splits child hlt hend fun c hc hne => ih c hc hne (Nat.le_of_add_le_add_right hle)

/-- **Every call returns**, with no more calls open than characters are left of the longest key, and
one. -/
theorem returns_build (maxLeaf depth : Nat) (es : List Entry) :
    Returns maxLeaf (longestKey es - depth + 1) depth es (build maxLeaf depth es) := by
  induction depth, es using build.induct maxLeaf with
  | case1 depth es h =>
    rw [build_of_le h]
    exact .fits h
  | case2 depth es h ih =>
    have hlt : maxLeaf < es.length := not_le.1 h
    rw [build_of_lt hlt]
    refine .splits (childNode maxLeaf depth es) hlt ?_ ?_
    · rintro c - rfl
      rw [childNode, if_pos rfl]
    · intro c hc hne
      rw [childNode, if_neg hne]
      -- the keys of the group have one character less left
      have hless := longestKey_group_lt hc hne
      exact (ih c hc hne).mono (by omega)

/-- Whatever a call returns is what is built. -/
theorem Returns.eq_build {calls depth : Nat} {es : List Entry} {n : Node}
    (h : Returns maxLeaf calls depth es n) : n = build maxLeaf depth es := by
  induction h with
  | fits hfits => rw [build_of_le hfits]
  | splits child hlt hend _ ih =>
    rw [build_of_lt hlt]
    refine congrArg internal (List.map_congr_left fun c hc => ?_)
    by_cases hc' : c = endOfKey
    · rw [childNode, if_pos hc', hend c hc hc']
    · rw [childNode, if_neg hc', ih c hc hc']

/-! ### Leaves -/

/-- Every entry that is built from is in a leaf. -/
theorem exists_leaf_of_mem {depth : Nat} {es : List Entry} {e : Entry} (he : e ∈ es) :
    ∃ path w entries, (build maxLeaf depth es).Reaches path (.leaf w entries) ∧ e ∈ entries := by
  induction depth, es using build.induct maxLeaf with
  | case1 depth es h =>
    rw [build_of_le h]
    exact ⟨[], _, _, .here _, List.mem_mergeSort.2 he⟩
  | case2 depth es h ih =>
    have hlabel : labelAt depth e ∈ labels depth es := mem_labels.2 ⟨e, he, rfl⟩
    have hgroup : e ∈ group depth es (labelAt depth e) := mem_group.2 ⟨he, rfl⟩
    rw [build_of_lt (not_le.1 h)]
    have hchild : ∃ path w entries,
        (childNode maxLeaf depth es (labelAt depth e)).Reaches path (.leaf w entries) ∧
          e ∈ entries := by
      unfold childNode
      split_ifs with hend
      · exact ⟨[], _, _, .here _, List.mem_mergeSort.2 hgroup⟩
      · exact ih _ hlabel hend hgroup
    obtain ⟨path, w, entries, hreach, hmem⟩ := hchild
    refine ⟨labelAt depth e :: path, w, entries, ?_, hmem⟩
    exact reaches_internal_cons_iff.2 ⟨_, List.mem_map.2 ⟨_, hlabel, rfl⟩, hreach⟩

/-- **The labels on the way to a leaf are the first characters of every key in it**, up to a label
for the ends of keys at the end. -/
theorem along_key_of_reaches {es : List Entry} {path : List Char} {w : UInt64}
    {entries : List Entry} (h : (build maxLeaf 0 es).Reaches path (.leaf w entries)) {e : Entry}
    (he : e ∈ entries) :
    ∃ front, (path = front ∨ path = front ++ [endOfKey]) ∧ endOfKey ∉ front ∧
      front <+: e.key.toList := by
  have hunder : Under [] es := fun e _ => List.nil_prefix
  obtain ⟨hpath, hbuilt⟩ | ⟨front, rfl, hfront, hleaf⟩ := reaches_build h
  · -- what is built there are the entries that went along the way
    have hmem : e ∈ (build maxLeaf (0 + path.length) (along 0 path es)).entries := by
      rw [← hbuilt]
      exact he
    have halong := (entries_build ..).mem_iff.1 hmem
    exact ⟨path, .inl rfl, hpath, under_along hunder hpath e halong⟩
  · rw [entries_of_leaf_eq hleaf.symm, List.mem_mergeSort] at he
    refine ⟨front, .inr rfl, hfront, ?_⟩
    rcases key_of_mem_end_leaf hfront he with hkey | hgoes
    · exact ⟨[], by rw [List.append_nil, hkey]⟩
    · exact (List.prefix_append front [endOfKey]).trans hgoes

/-- **Building ends, and no leaf lies deeper than its keys are long.**  Whatever the entries, the
depth and the size of leaves, a call returns exactly the node that is built, with no more calls open
at a time than characters are left of the longest key, and one.  In a trie that is built from the
start of the keys every entry is in a leaf; and the labels on the way to a leaf are, up to a label
for the ends of keys at the end, the first characters of each key in it. -/
theorem build_returns_within_keys (maxLeaf : Nat) (es : List Entry) :
    (∀ depth, Returns maxLeaf (longestKey es - depth + 1) depth es (build maxLeaf depth es) ∧
      ∀ calls n, Returns maxLeaf calls depth es n → n = build maxLeaf depth es) ∧
    (∀ e ∈ es, ∃ path w entries,
      (build maxLeaf 0 es).Reaches path (.leaf w entries) ∧ e ∈ entries) ∧
    ∀ path w entries, (build maxLeaf 0 es).Reaches path (.leaf w entries) → ∀ e ∈ entries,
      path.length ≤ e.key.toList.length + 1 ∧
      ∃ front, (path = front ∨ path = front ++ [endOfKey]) ∧ endOfKey ∉ front ∧
        front <+: e.key.toList := by
  refine ⟨fun depth => ⟨returns_build maxLeaf depth es, fun _ _ h => h.eq_build⟩, ?_, ?_⟩
  · intro e he
    exact exists_leaf_of_mem he
  · intro path w entries hreach e he
    obtain ⟨front, hpath, hfront, hkey⟩ := along_key_of_reaches hreach he
    refine ⟨?_, front, hpath, hfront, hkey⟩
    have hlength := hkey.length_le
    rcases hpath with rfl | rfl
    · omega
    · simpa using hlength

/-- Entries with an empty key, with a key that others start with, with one key twice, and with a key
that goes on with the label for the ends of keys. -/
def sharedKeys : List Entry :=
  [⟨"", 1, "-"⟩, ⟨"ab", 4, "ab"⟩, ⟨"a", 2, "a"⟩, ⟨"ab", 3, "AB"⟩, ⟨"ab\ufdd0c", 1, "ab\ufdd0c"⟩]

/-- Leaves are to hold nothing, and the calls start once within the keys and once beyond them. -/
theorem build_returns_sharedKeys :
    Returns 0 5 0 sharedKeys (build 0 0 sharedKeys) ∧
    Returns 0 1 7 sharedKeys (build 0 7 sharedKeys) ∧
    ∃ w entries, (build 0 0 sharedKeys).Reaches ['a', 'b', endOfKey] (.leaf w entries) ∧
      ⟨"ab", 3, "AB"⟩ ∈ entries ∧
      ∀ e ∈ entries, 3 ≤ e.key.toList.length + 1 ∧ ['a', 'b'] <+: e.key.toList := by
  obtain ⟨hreturns, -, hleaves⟩ := build_returns_within_keys 0 sharedKeys
  have hreach := @reaches_end_leaf 0 0 sharedKeys ['a', 'b'] (by decide) (by decide)
  have hmem : ⟨"ab", 3, "AB"⟩ ∈ along 0 ['a', 'b', endOfKey] sharedKeys := by decide
  refine ⟨(hreturns 0).1, (hreturns 7).1, _, _, hreach, List.mem_mergeSort.2 hmem, fun e he => ?_⟩
  obtain ⟨hlength, front, hpath, hfront, hkey⟩ := hleaves _ _ _ hreach e he
  refine ⟨hlength, ?_⟩
  rcases hpath with rfl | hpath
  · exact absurd (by decide) hfront
  · rw [List.append_cancel_right hpath]
    exact hkey

end Trie

end LexicalModel
