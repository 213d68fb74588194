import LexicalModel.Trie
import Mathlib.Data.Char
import Mathlib.Data.List.Perm.Lattice
import Mathlib.Data.Multiset.Filter

/-!
# The entries of a trie

A node holds the entries of the leaves below it.  Building splits entries by their labels into
groups; as every entry has exactly one label, no entry is lost and none comes twice.

* `Trie.Node.entries` : the entries in the leaves below a node
* `Trie.childNode` : what a node that splits puts under a label
* `Trie.entries_build` : a built node holds the entries it was built from
-/

namespace LexicalModel

namespace Trie

mutual

/-- The entries in the leaves below a node. -/
def Node.entries : Node → List Entry
  | .leaf _ es => es
  | .internal _ _ children => childrenEntries children

/-- The entries in the leaves below some children. -/
def childrenEntries : List (Char × Node) → List Entry
  | [] => []
  | (_, child) :: rest => child.entries ++ childrenEntries rest

end

theorem childrenEntries_eq (children : List (Char × Node)) :
    childrenEntries children = children.flatMap fun c => c.2.entries := by
  induction children with
  | nil => rfl
  | cons c rest ih => simp [childrenEntries, ih]

@[simp] theorem entries_leaf (es : List Entry) : (leaf es).entries = es.mergeSort entryLe := rfl

@[simp] theorem entries_internal (children : List (Char × Node)) :
    (internal children).entries = children.flatMap fun c => c.2.entries := by
  rw [← childrenEntries_eq]
  rfl

/-! ### Labels -/

theorem sorted_insertLabel {c : Char} {ds : List Char} (h : ds.Pairwise (· < ·)) :
    (insertLabel c ds).Pairwise (· < ·) := by
  induction ds with
  | nil => simp [insertLabel]
  | cons d ds ih =>
    obtain ⟨hd, hds⟩ := List.pairwise_cons.1 h
    simp only [insertLabel]
    split_ifs with hlt heq
    · refine List.pairwise_cons.2 ⟨fun e he => ?_, h⟩
      rcases List.mem_cons.1 he with rfl | he
      · exact hlt
      · exact lt_trans hlt (hd e he)
    · exact h
    · refine List.pairwise_cons.2 ⟨fun e he => ?_, ih hds⟩
      rcases mem_insertLabel.1 he with rfl | he
      · exact lt_of_le_of_ne (not_lt.1 hlt) (Ne.symm heq)
      · exact hd e he

/-- The labels of a node ascend strictly. -/
theorem sorted_labels (depth : Nat) (es : List Entry) :
    (labels depth es).Pairwise (· < ·) := by
  simp only [labels]
  induction es with
  | nil => simp
  | cons e es ih => exact sorted_insertLabel ih

theorem nodup_labels (depth : Nat) (es : List Entry) : (labels depth es).Nodup :=
  (sorted_labels depth es).imp fun h => ne_of_lt h

theorem mem_group {depth : Nat} {es : List Entry} {c : Char} {e : Entry} :
    e ∈ group depth es c ↔ e ∈ es ∧ labelAt depth e = c := by
  simp [group]

/-- Groups of distinct labels together hold the entries with one of these labels. -/
theorem flatMap_group_perm (depth : Nat) (es : List Entry) {cs : List Char} (h : cs.Nodup) :
    (cs.flatMap (group depth es)).Perm (es.filter fun e => labelAt depth e ∈ cs) := by
  induction cs with
  | nil => simp
  | cons c cs ih =>
    obtain ⟨hc, hcs⟩ := List.nodup_cons.1 h
    let mine := es.filter fun e => labelAt depth e ∈ c :: cs
    have hfirst : mine.filter (fun e => labelAt depth e = c) = group depth es c := by
      rw [List.filter_filter, group]
      refine List.filter_congr fun e _ => ?_
      by_cases he : labelAt depth e = c <;> simp [he]
    have hrest : mine.filter (fun e => !decide (labelAt depth e = c)) =
        es.filter fun e => labelAt depth e ∈ cs := by
      rw [List.filter_filter]
      refine List.filter_congr fun e _ => ?_
      by_cases he : labelAt depth e = c
      · simp [he, hc]
      · simp [he]
    calc (c :: cs).flatMap (group depth es)
        = group depth es c ++ cs.flatMap (group depth es) := List.flatMap_cons
      _ |>.Perm (mine.filter (fun e => labelAt depth e = c) ++
            mine.filter (fun e => !decide (labelAt depth e = c))) := by
          rw [hfirst, hrest]
          exact (ih hcs).append_left _
      _ |>.Perm mine := List.filter_append_perm _ _

/-- **Splitting loses no entry and doubles none.** -/
theorem groups_perm (depth : Nat) (es : List Entry) :
    ((labels depth es).flatMap (group depth es)).Perm es := by
  have hall : es.filter (fun e => labelAt depth e ∈ labels depth es) = es :=
    List.filter_eq_self.2 fun e he => by simpa using mem_labels.2 ⟨e, he, rfl⟩
  simpa only [hall] using flatMap_group_perm depth es (nodup_labels depth es)

/-! ### Building -/

/-- What a node of the given depth that splits puts under a label. -/
def childNode (maxLeaf depth : Nat) (es : List Entry) (c : Char) : Node :=
  if c = endOfKey then leaf (group depth es c) else build maxLeaf (depth + 1) (group depth es c)

theorem build_of_le {maxLeaf : Nat} {es : List Entry} (h : es.length ≤ maxLeaf) (depth : Nat) :
    build maxLeaf depth es = leaf es := by
  rw [build, if_pos h]

theorem build_of_lt {maxLeaf : Nat} {es : List Entry} (h : maxLeaf < es.length) (depth : Nat) :
    build maxLeaf depth es =
      internal ((labels depth es).map fun c => (c, childNode maxLeaf depth es c)) := by
  rw [build, if_neg (by omega)]
  refine congrArg internal (Eq.trans ?_ List.attach_map_val)
  simp only [childNode, dite_eq_ite]

/-- **A built node holds the entries it was built from.** -/
theorem entries_build (maxLeaf depth : Nat) (es : List Entry) :
    (build maxLeaf depth es).entries.Perm es := by
  induction depth, es using build.induct maxLeaf with
  | case1 depth es h =>
    rw [build_of_le h, entries_leaf]
    exact List.mergeSort_perm _ _
  | case2 depth es h ih =>
    rw [build_of_lt (not_le.1 h), entries_internal, List.flatMap_map]
    refine List.Perm.trans ?_ (groups_perm depth es)
    refine List.Perm.flatMap_left _ fun c hc => ?_
    unfold childNode
    split_ifs with hend
    · exact List.mergeSort_perm _ _
    · exact ih c hc hend

end Trie

end LexicalModel
