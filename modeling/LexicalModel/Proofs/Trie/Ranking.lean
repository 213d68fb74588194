import LexicalModel.Proofs.Ranks
import LexicalModel.Proofs.Trie.Reaching

/-!
# The best entries come first

A search that wants the best matches goes down a trie by weights: at a node that splits it takes the
labels in the order of `values`, and at a leaf the entries in their order.  This finds the best
entry first because the weight of every node is that of the best entry below it, and labels and
entries are ranked by weight.

The weight of a node that splits is read off the first of its ranked labels.  That this is a maximum
rests on the weights of the children and on every label having entries, so it is shown for all
levels at once.

* `Trie.bestWeight` : the weight of the best entry
* `Trie.Node.Ranked` : what holds at every node of a trie
* `Trie.Node.best` : the entry that is found first
* `Trie.build_ranked` : a built trie is ranked, and its best entry is found first
-/

namespace LexicalModel

namespace Trie

/-! ### The best weight -/

theorem max_weight (v w : UInt64) : max v w = if v ≤ w then w else v := rfl

instance : Std.LawfulOrderMax UInt64 where
  max_eq_or v w := by
    rw [max_weight]
    split_ifs
    · exact .inr rfl
    · exact .inl rfl
  max_le_iff v w u := by
    rw [max_weight]
    simp only [UInt64.le_iff_toNat_le]
    split_ifs <;> omega

/-- The weight of the best of some entries, zero if there is none. -/
def bestWeight (es : List Entry) : UInt64 := ((es.map Entry.weight).max?).getD 0

theorem bestWeight_eq {es : List Entry} {e : Entry} (he : e ∈ es)
    (hbest : ∀ d ∈ es, d.weight ≤ e.weight) : bestWeight es = e.weight := by
  have hmax : (es.map Entry.weight).max? = some e.weight := by
    rw [List.max?_eq_some_iff]
    refine ⟨List.mem_map_of_mem he, ?_⟩
    intro w hw
    obtain ⟨d, hd, rfl⟩ := List.mem_map.1 hw
    exact hbest d hd
  rw [bestWeight, hmax, Option.getD_some]

/-- A leaf starts with a best entry. -/
theorem leaf_first {es : List Entry} (hne : es ≠ []) :
    ∃ e rest, e ∈ es ∧ es.mergeSort entryLe = e :: rest ∧ ∀ d ∈ es, d.weight ≤ e.weight := by
  obtain ⟨e, he, hhead, hfirst⟩ := head?_mergeSort entryLe_iff hne
  obtain ⟨rest, hsorted⟩ := List.head?_eq_some_iff.1 hhead
  exact ⟨e, rest, he, hsorted, fun d hd => le_of_rankOf_le (hfirst d hd)⟩

theorem exists_best {es : List Entry} (hne : es ≠ []) :
    ∃ e ∈ es, e.weight = bestWeight es ∧ ∀ d ∈ es, d.weight ≤ e.weight := by
  obtain ⟨e, -, he, -, hbest⟩ := leaf_first hne
  exact ⟨e, he, (bestWeight_eq he hbest).symm, hbest⟩

theorem le_bestWeight {es : List Entry} {e : Entry} (he : e ∈ es) : e.weight ≤ bestWeight es := by
  obtain ⟨d, -, hd, hbest⟩ := exists_best (List.ne_nil_of_mem he)
  rw [← hd]
  exact hbest e he

theorem bestWeight_perm {es es' : List Entry} (h : es.Perm es') :
    bestWeight es = bestWeight es' := by
  rcases eq_or_ne es [] with rfl | hne
  · rw [h.nil_eq]
  · obtain ⟨e, he, hweight, hbest⟩ := exists_best hne
    rw [← hweight]
    exact (bestWeight_eq (h.mem_iff.1 he) fun d hd => hbest d (h.mem_iff.2 hd)).symm

/-! ### Weights of nodes -/

theorem weight_leaf (es : List Entry) : (leaf es).weight = bestWeight es := by
  rcases eq_or_ne es [] with rfl | hne
  · simp [leaf, Node.weight, bestWeight]
  · obtain ⟨e, rest, he, hsorted, hbest⟩ := leaf_first hne
    simp only [leaf, Node.weight, hsorted, List.head?_cons, Option.map_some, Option.getD_some]
    exact (bestWeight_eq he hbest).symm

theorem leaf_eq (es : List Entry) : leaf es = .leaf (bestWeight es) (es.mergeSort entryLe) := by
  rw [← weight_leaf]
  rfl

/-- The labels of children with the weights below them. -/
def weighted (children : List (Char × Node)) : List (Char × UInt64) :=
  children.map fun p => (p.1, p.2.weight)

theorem internal_eq (children : List (Char × Node)) :
    internal children =
      .internal ((((weighted children).mergeSort labelLe).head?.map Prod.snd).getD 0)
        (((weighted children).mergeSort labelLe).map Prod.fst) children := rfl

/-- A node that splits has the weight of its first child, which no child exceeds. -/
theorem internal_first {children : List (Char × Node)} (hne : children ≠ []) :
    ∃ c below values, (c, below) ∈ children ∧
      internal children = .internal below.weight (c :: values) children ∧
      ∀ d n, (d, n) ∈ children → n.weight ≤ below.weight := by
  have hpairs : weighted children ≠ [] := by simpa [weighted] using hne
  obtain ⟨q, hq, hhead, hfirst⟩ := head?_mergeSort labelLe_iff hpairs
  obtain ⟨⟨c, below⟩, hmem, rfl⟩ := List.mem_map.1 hq
  obtain ⟨rest, hsorted⟩ := List.head?_eq_some_iff.1 hhead
  refine ⟨c, below, rest.map Prod.fst, hmem, ?_, ?_⟩
  · rw [internal_eq, hsorted, List.head?_cons, Option.map_some, Option.getD_some, List.map_cons]
  · intro d n hn
    exact le_of_rankOf_le (hfirst (d, n.weight) (List.mem_map.2 ⟨(d, n), hn, rfl⟩))

theorem group_ne_nil {depth : Nat} {es : List Entry} {c : Char} (h : c ∈ labels depth es) :
    group depth es c ≠ [] := by
  obtain ⟨e, he, hlabel⟩ := mem_labels.1 h
  exact List.ne_nil_of_mem (mem_group.2 ⟨he, hlabel⟩)

theorem labels_ne_nil {depth : Nat} {es : List Entry} (h : es ≠ []) : labels depth es ≠ [] := by
  obtain ⟨e, he⟩ := List.exists_mem_of_ne_nil es h
  exact List.ne_nil_of_mem (mem_labels.2 ⟨e, he, rfl⟩)

/-- The first child of a node that splits its entries holds a best entry, if every child has the
weight of the best entry of its group. -/
theorem internal_groups_first {depth : Nat} {es : List Entry} {f : Char → Node} (hne : es ≠ [])
    (hf : ∀ c ∈ labels depth es, (f c).weight = bestWeight (group depth es c)) :
    ∃ c values, c ∈ labels depth es ∧
      internal ((labels depth es).map fun c => (c, f c)) =
        .internal (bestWeight es) (c :: values) ((labels depth es).map fun c => (c, f c)) ∧
      bestWeight (group depth es c) = bestWeight es := by
  have hchildren : ((labels depth es).map fun c => (c, f c)) ≠ [] := by
    simpa using labels_ne_nil hne
  obtain ⟨c, below, values, hmem, hinternal, hfirst⟩ := internal_first hchildren
  obtain ⟨c', hc, heq⟩ := List.mem_map.1 hmem
  obtain ⟨rfl, rfl⟩ := Prod.mk.inj heq
  obtain ⟨e, he, hweight, -⟩ := exists_best (group_ne_nil hc)
  -- every entry is in the group of its label, and no group weighs more than the first
  have hbest : ∀ d ∈ es, d.weight ≤ e.weight := by
    intro d hd
    have hlabel : labelAt depth d ∈ labels depth es := mem_labels.2 ⟨d, hd, rfl⟩
    calc d.weight
        ≤ bestWeight (group depth es (labelAt depth d)) := le_bestWeight (mem_group.2 ⟨hd, rfl⟩)
      _ = (f (labelAt depth d)).weight := (hf _ hlabel).symm
      _ ≤ (f c').weight := hfirst _ _ (List.mem_map.2 ⟨_, hlabel, rfl⟩)
      _ = e.weight := by rw [hf c' hc, hweight]
  have hes : bestWeight es = e.weight := bestWeight_eq (mem_group.1 he).1 hbest
  refine ⟨c', values, hc, ?_, by rw [hes, hweight]⟩
  rw [hinternal, hf c' hc, hes, hweight]

theorem ne_nil_of_lt {maxLeaf : Nat} {es : List Entry} (h : maxLeaf < es.length) : es ≠ [] :=
  List.ne_nil_of_length_pos (Nat.zero_lt_of_lt h)

/-- **A built node weighs as much as its best entry.** -/
theorem weight_build (maxLeaf depth : Nat) (es : List Entry) :
    (build maxLeaf depth es).weight = bestWeight es := by
  induction depth, es using build.induct maxLeaf with
  | case1 depth es h =>
    rw [build_of_le h]
    exact weight_leaf es
  | case2 depth es h ih =>
    have hlt := not_le.1 h
    have hchild : ∀ c ∈ labels depth es,
        (childNode maxLeaf depth es c).weight = bestWeight (group depth es c) := by
      intro c hc
      unfold childNode
      split_ifs with hend
      · exact weight_leaf _
      · exact ih c hc hend
    obtain ⟨c, values, -, hinternal, -⟩ := internal_groups_first (ne_nil_of_lt hlt) hchild
    rw [build_of_lt hlt, hinternal]
    rfl

theorem weight_childNode (maxLeaf depth : Nat) (es : List Entry) (c : Char) :
    (childNode maxLeaf depth es c).weight = bestWeight (group depth es c) := by
  unfold childNode
  split_ifs
  · exact weight_leaf _
  · exact weight_build _ _ _

/-! ### What is found first -/

mutual

/-- The entry that is found first: the first labels lead to a leaf, whose first entry it is. -/
def Node.best : Node → Option Entry
  | .leaf _ es => es.head?
  | .internal _ values children => values.head?.bind fun c => bestUnder c children

/-- The entry that is found first under a label. -/
def bestUnder (c : Char) : List (Char × Node) → Option Entry
  | [] => none
  | (d, n) :: rest => if c = d then n.best else bestUnder c rest

end

theorem bestUnder_map {f : Char → Node} {cs : List Char} {c : Char} (h : c ∈ cs) :
    bestUnder c (cs.map fun d => (d, f d)) = (f c).best := by
  induction cs with
  | nil => cases h
  | cons d ds ih =>
    by_cases hd : c = d
    · simp [bestUnder, hd]
    · have hmem : c ∈ ds := (List.mem_cons.1 h).resolve_left hd
      simp only [List.map_cons, bestUnder, if_neg hd, ih hmem]

/-- What is found first in a leaf is a best entry. -/
theorem best_leaf {es : List Entry} (hne : es ≠ []) :
    ∃ e ∈ es, (leaf es).best = some e ∧ e.weight = bestWeight es := by
  obtain ⟨e, rest, he, hsorted, hbest⟩ := leaf_first hne
  refine ⟨e, he, ?_, (bestWeight_eq he hbest).symm⟩
  simp only [leaf, Node.best, hsorted, List.head?_cons]

/-- **What is found first in a built node is a best entry.** -/
theorem best_build (maxLeaf : Nat) {depth : Nat} {es : List Entry} (hne : es ≠ []) :
    ∃ e ∈ es, (build maxLeaf depth es).best = some e ∧ e.weight = bestWeight es := by
  induction depth, es using build.induct maxLeaf with
  | case1 depth es h =>
    rw [build_of_le h]
    exact best_leaf hne
  | case2 depth es h ih =>
    obtain ⟨c, values, hc, hinternal, hfirst⟩ :=
      internal_groups_first hne fun c _ => weight_childNode maxLeaf depth es c
    obtain ⟨e, he, hbest, hweight⟩ : ∃ e ∈ group depth es c,
        (childNode maxLeaf depth es c).best = some e ∧
          e.weight = bestWeight (group depth es c) := by
      unfold childNode
      split_ifs with hend
      · exact best_leaf (group_ne_nil hc)
      · exact ih c hc hend (group_ne_nil hc)
    refine ⟨e, (mem_group.1 he).1, ?_, hweight.trans hfirst⟩
    rw [build_of_lt (not_le.1 h), hinternal, Node.best, List.head?_cons, Option.bind_some,
      bestUnder_map hc, hbest]

/-! ### Ranked nodes -/

/-- A leaf of a trie of the given entries, at the end of a way: it is ranked, entries of one rank
stand as they came, and it has room for its entries unless it holds the ends of keys. -/
structure RankedLeaf (maxLeaf : Nat) (all : List Entry) (path : List Char) (weight : UInt64)
    (entries : List Entry) : Prop where
  /-- The weight is that of the best entry. -/
  weight_eq : weight = bestWeight entries
  /-- Entries are ordered by weight, the largest first, and then by key. -/
  sorted : entries.Pairwise fun a b => b.weight < a.weight ∨ a.weight = b.weight ∧ a.key ≤ b.key
  /-- Entries of one weight and key are in the order in which the trie got them. -/
  stable : ∀ e ∈ entries,
    (entries.filter fun d => d.weight = e.weight ∧ d.key = e.key) =
      all.filter fun d => d.weight = e.weight ∧ d.key = e.key
  /-- A leaf that does not hold the ends of keys is not too large. -/
  room : path.getLast? ≠ some endOfKey → entries.length ≤ maxLeaf

/-- A node of a trie that splits: its labels are ranked, and it has too many entries for a leaf. -/
structure RankedSplit (maxLeaf : Nat) (weight : UInt64) (values : List Char)
    (children : List (Char × Node)) : Prop where
  /-- The weight is that of the best entry below. -/
  weight_eq : weight = bestWeight (childrenEntries children)
  /-- There are children. -/
  nonempty : children ≠ []
  /-- No label has two children. -/
  distinct : (children.map Prod.fst).Nodup
  /-- The values are the labels of the children, each once. -/
  values_perm : values.Perm (children.map Prod.fst)
  /-- The values are ordered by the weight below them, the largest first, and then by label. -/
  sorted : values.Pairwise fun c d => ∀ a b, (c, a) ∈ children → (d, b) ∈ children →
    b.weight < a.weight ∨ a.weight = b.weight ∧ c < d
  /-- The entries do not fit into a leaf. -/
  full : maxLeaf < (childrenEntries children).length

/-- What holds at a node of a trie of the given entries, at the end of a way. -/
def Node.Ranked (maxLeaf : Nat) (all : List Entry) (path : List Char) : Node → Prop
  | .leaf w entries => RankedLeaf maxLeaf all path w entries
  | .internal w values children => RankedSplit maxLeaf w values children

/-- Which leaf an entry is in depends on its key, so a leaf has all entries of the rank of one. -/
theorem filter_along {depth : Nat} {path : List Char} {all : List Entry} {e : Entry}
    (he : e ∈ along depth path all) :
    ((along depth path all).filter fun d => d.weight = e.weight ∧ d.key = e.key) =
      all.filter fun d => d.weight = e.weight ∧ d.key = e.key := by
  have hgoes : goesAlong e depth path = true := (List.mem_filter.1 he).2
  rw [along, List.filter_filter]
  refine List.filter_congr fun d _ => ?_
  by_cases hkey : d.key = e.key
  · simp [goesAlong_congr hkey, hgoes]
  · simp [hkey]

theorem ranked_leaf {maxLeaf depth : Nat} {path : List Char} {all : List Entry}
    (hroom : path.getLast? ≠ some endOfKey → (along depth path all).length ≤ maxLeaf) :
    (leaf (along depth path all)).Ranked maxLeaf all path where
  weight_eq := by
    have hperm := List.mergeSort_perm (along depth path all) entryLe
    rw [bestWeight_perm hperm]
    exact weight_leaf _
  sorted := (pairwise_rank_mergeSort entryLe_iff _).imp fun h => rankOf_le_iff.1 h
  stable := by
    intro e he
    have hrank : ∀ d : Entry, (d.weight = e.weight ∧ d.key = e.key) ↔ d.rank = e.rank :=
      fun d => rankOf_inj.symm
    rw [← filter_along (List.mem_mergeSort.1 he)]
    simp only [hrank]
    exact filter_rank_mergeSort entryLe_iff e.rank _
  room := by
    rw [List.length_mergeSort]
    exact hroom

/-- The values of a node that splits are its labels, ranked. -/
theorem internal_values {children : List (Char × Node)} (h : (children.map Prod.fst).Nodup) :
    ∃ w values, internal children = .internal w values children ∧
      values.Perm (children.map Prod.fst) ∧
      values.Pairwise fun c d => ∀ a b, (c, a) ∈ children → (d, b) ∈ children →
        b.weight < a.weight ∨ a.weight = b.weight ∧ c < d := by
  have hperm : ((weighted children).mergeSort labelLe).Perm (weighted children) :=
    List.mergeSort_perm _ _
  have hfst : (weighted children).map Prod.fst = children.map Prod.fst := by
    rw [weighted, List.map_map]
    rfl
  have hvalues : (((weighted children).mergeSort labelLe).map Prod.fst).Perm
      (children.map Prod.fst) :=
    hfst ▸ hperm.map Prod.fst
  -- a label stands once, so the weight beside it is that of its child
  have hweight : ∀ p ∈ (weighted children).mergeSort labelLe, ∀ a, (p.1, a) ∈ children →
      a.weight = p.2 := by
    intro p hp a ha
    obtain ⟨⟨c, n⟩, hn, rfl⟩ := List.mem_map.1 (hperm.mem_iff.1 hp)
    cases List.inj_on_of_nodup_map h ha hn rfl
    rfl
  refine ⟨_, _, internal_eq children, hvalues, List.pairwise_map.2 ?_⟩
  have hsorted := pairwise_rank_mergeSort labelLe_iff (weighted children)
  have hdistinct := List.pairwise_map.1 (hvalues.nodup_iff.2 h)
  refine (hsorted.and hdistinct).imp_of_mem ?_
  rintro p q hp hq ⟨hrank, hne⟩ a b ha hb
  rw [hweight p hp a ha, hweight q hq b hb]
  rcases rankOf_le_iff.1 hrank with hlt | ⟨heq, hle⟩
  · exact .inl hlt
  · exact .inr ⟨heq, lt_of_le_of_ne hle hne⟩

theorem map_fst_children {f : Char → Node} (cs : List Char) :
    (cs.map fun c => (c, f c)).map Prod.fst = cs := by
  simp [Function.comp_def]

theorem ranked_split {maxLeaf : Nat} (depth : Nat) {es : List Entry} (h : maxLeaf < es.length)
    (all : List Entry) (path : List Char) : (build maxLeaf depth es).Ranked maxLeaf all path := by
  have hbuild := build_of_lt h depth
  have hnodup := nodup_labels depth es
  rw [← map_fst_children (f := childNode maxLeaf depth es) (labels depth es)] at hnodup
  obtain ⟨w, values, hinternal, hperm, hsorted⟩ := internal_values hnodup
  have hentries := entries_build maxLeaf depth es
  have hweight := weight_build maxLeaf depth es
  rw [hbuild, hinternal] at hentries hweight ⊢
  exact {
    weight_eq := hweight.trans (bestWeight_perm hentries).symm
    nonempty := by simpa using labels_ne_nil (ne_nil_of_lt h)
    distinct := hnodup
    values_perm := hperm
    sorted := hsorted
    full := hentries.length_eq ▸ h }

/-- Every node below a built node is ranked. -/
theorem ranked_of_reaches {maxLeaf depth : Nat} {es : List Entry} {path : List Char} {n : Node}
    (h : (build maxLeaf depth es).Reaches path n) : n.Ranked maxLeaf es path := by
  obtain ⟨-, rfl⟩ | ⟨front, rfl, -, rfl⟩ := reaches_build h
  · rcases Nat.lt_or_ge maxLeaf (along depth path es).length with hlt | hge
    · exact ranked_split _ hlt es path
    · rw [build_of_le hge]
      exact ranked_leaf fun _ => hge
  · exact ranked_leaf fun hlast => absurd (by simp) hlast

/-- **A built trie is ranked at every node, and its best entry is found first.** -/
theorem build_ranked (maxLeaf depth : Nat) (es : List Entry) :
    (build maxLeaf depth es).entries.Perm es ∧
    (∀ path n, (build maxLeaf depth es).Reaches path n → n.Ranked maxLeaf es path) ∧
    (es ≠ [] →
      ∃ e ∈ es, (build maxLeaf depth es).best = some e ∧ ∀ d ∈ es, d.weight ≤ e.weight) := by
  refine ⟨entries_build maxLeaf depth es, fun path n h => ranked_of_reaches h, fun hne => ?_⟩
  obtain ⟨e, he, hbest, hweight⟩ := best_build maxLeaf hne
  refine ⟨e, he, hbest, fun d hd => ?_⟩
  rw [hweight]
  exact le_bestWeight hd

/-- Four entries, three of which start alike. -/
def sampleEntries : List Entry := [⟨"a", 1, "a"⟩, ⟨"ab", 5, "ab"⟩, ⟨"ac", 2, "ac"⟩, ⟨"b", 3, "b"⟩]

/-- In leaves of two entries the sample splits twice, and its best entry is found first. -/
theorem build_ranked_sample :
    (build 2 0 sampleEntries).Reaches ['a'] (childNode 2 0 sampleEntries 'a') ∧
      (childNode 2 0 sampleEntries 'a').Ranked 2 sampleEntries ['a'] ∧
      (build 2 0 sampleEntries).best = some ⟨"ab", 5, "ab"⟩ := by
  obtain ⟨-, hranked, hbest⟩ := build_ranked 2 0 sampleEntries
  have hreach : (build 2 0 sampleEntries).Reaches ['a'] (childNode 2 0 sampleEntries 'a') := by
    rw [build_of_lt (by decide), reaches_internal_cons_iff]
    exact ⟨_, List.mem_map.2 ⟨'a', by decide, rfl⟩, .here _⟩
  refine ⟨hreach, hranked _ _ hreach, ?_⟩
  obtain ⟨e, he, hfound, hfirst⟩ := hbest (by decide)
  have honly : ∀ e ∈ sampleEntries, (∀ d ∈ sampleEntries, d.weight ≤ e.weight) →
      e = ⟨"ab", 5, "ab"⟩ := by decide
  rw [hfound, honly e he hfirst]

end Trie

end LexicalModel
