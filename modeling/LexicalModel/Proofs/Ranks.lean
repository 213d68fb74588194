import LexicalModel.Trie
import Mathlib.Data.Char
import Mathlib.Data.List.Perm.Basic
import Mathlib.Data.Prod.Lex
import Mathlib.Data.String.Basic

/-!
# Sorting by rank

Entries and labels are both sorted by weight, the largest first, and then by what they are called.
Either is a comparison of ranks, and ranks are ordered linearly: a sorted list starts with a first
of all, has the same ranks at its places whatever order it was sorted from, and keeps what has one
rank in the order in which it came.

* `rankOf`, `Entry.rank`, `Trie.labelRank` : ranks
* `head?_mergeSort` : the first of all comes first
* `map_rank_mergeSort` : sorting what was permuted
* `filter_rank_mergeSort` : sorting keeps the order within a rank
-/

namespace LexicalModel

/-- The rank by weight, the largest first, and then by name. -/
def rankOf {κ : Type} (weight : UInt64) (name : κ) : Lex (OrderDual Nat × κ) :=
  toLex (OrderDual.toDual weight.toNat, name)

theorem rankOf_le_iff {κ : Type} [LinearOrder κ] {v w : UInt64} {a b : κ} :
    rankOf v a ≤ rankOf w b ↔ w < v ∨ v = w ∧ a ≤ b := by
  simp [rankOf, Prod.Lex.toLex_le_toLex, UInt64.lt_iff_toNat_lt, UInt64.toNat_inj]

theorem le_of_rankOf_le {κ : Type} [LinearOrder κ] {v w : UInt64} {a b : κ}
    (h : rankOf v a ≤ rankOf w b) : w ≤ v := by
  rcases rankOf_le_iff.1 h with hlt | ⟨rfl, -⟩
  · exact UInt64.le_of_lt hlt
  · exact UInt64.le_refl v

theorem rankOf_inj {κ : Type} {v w : UInt64} {a b : κ} :
    rankOf v a = rankOf w b ↔ v = w ∧ a = b := by
  simp [rankOf, UInt64.toNat_inj]

/-- The rank of an entry in a leaf. -/
def Entry.rank (e : Entry) : Lex (OrderDual Nat × String) := rankOf e.weight e.key

/-- The rank of a label, given with the weight below it. -/
def Trie.labelRank (p : Char × UInt64) : Lex (OrderDual Nat × Char) := rankOf p.2 p.1

theorem Trie.entryLe_iff (a b : Entry) : entryLe a b = true ↔ a.rank ≤ b.rank := by
  simp [entryLe, Entry.rank, rankOf_le_iff]

theorem Trie.labelLe_iff (a b : Char × UInt64) :
    labelLe a b = true ↔ labelRank a ≤ labelRank b := by
  simp [labelLe, labelRank, rankOf_le_iff]

/-! ### Sorted lists -/

section Sorting

variable {α γ : Type} [LinearOrder γ] {le : α → α → Bool} {rank : α → γ}

theorem trans_of_rank (hle : ∀ a b, le a b = true ↔ rank a ≤ rank b) (a b c : α)
    (hab : le a b = true) (hbc : le b c = true) : le a c = true := by
  rw [hle] at hab hbc ⊢
  exact le_trans hab hbc

theorem total_of_rank (hle : ∀ a b, le a b = true ↔ rank a ≤ rank b) (a b : α) :
    (le a b || le b a) = true := by
  rw [Bool.or_eq_true, hle, hle]
  exact le_total _ _

theorem pairwise_rank_mergeSort (hle : ∀ a b, le a b = true ↔ rank a ≤ rank b) (l : List α) :
    (l.mergeSort le).Pairwise fun a b => rank a ≤ rank b := by
  have hsorted : (l.mergeSort le).Pairwise fun a b => le a b = true :=
    List.pairwise_mergeSort (trans_of_rank hle) (total_of_rank hle) l
  exact hsorted.imp fun {a b} h => (hle a b).1 h

/-- The first of a sorted list is a first of all. -/
theorem head?_mergeSort (hle : ∀ a b, le a b = true ↔ rank a ≤ rank b) {l : List α} (hne : l ≠ []) :
    ∃ a ∈ l, (l.mergeSort le).head? = some a ∧ ∀ b ∈ l, rank a ≤ rank b := by
  have hperm := List.mergeSort_perm l le
  have hsorted := pairwise_rank_mergeSort hle l
  cases hs : l.mergeSort le with
  | nil =>
    rw [hs] at hperm
    exact absurd hperm.nil_eq.symm hne
  | cons a rest =>
    rw [hs] at hperm hsorted
    refine ⟨a, hperm.mem_iff.1 List.mem_cons_self, rfl, fun b hb => ?_⟩
    rcases List.mem_cons.1 (hperm.mem_iff.2 hb) with rfl | hrest
    · exact le_rfl
    · exact List.rel_of_pairwise_cons hsorted hrest

/-- **Sorting forgets in which order things came**, but for those of one rank. -/
theorem map_rank_mergeSort (hle : ∀ a b, le a b = true ↔ rank a ≤ rank b) {l l' : List α}
    (h : l.Perm l') : (l.mergeSort le).map rank = (l'.mergeSort le).map rank := by
  have hperm : (l.mergeSort le).Perm (l'.mergeSort le) :=
    (List.mergeSort_perm l le).trans (h.trans (List.mergeSort_perm l' le).symm)
  refine List.Perm.eq_of_pairwise (fun a b _ _ => le_antisymm) ?_ ?_ (hperm.map rank)
  · exact List.pairwise_map.2 (pairwise_rank_mergeSort hle l)
  · exact List.pairwise_map.2 (pairwise_rank_mergeSort hle l')

/-- **Sorting keeps the order of things of one rank.** -/
theorem filter_rank_mergeSort (hle : ∀ a b, le a b = true ↔ rank a ≤ rank b) (r : γ) (l : List α) :
    ((l.mergeSort le).filter fun a => rank a = r) = l.filter fun a => rank a = r := by
  have hties : (l.filter fun a => rank a = r).Pairwise fun a b => le a b = true := by
    refine List.pairwise_of_forall_mem_list fun a ha b hb => ?_
    have ha' : rank a = r := by simpa using List.of_mem_filter ha
    have hb' : rank b = r := by simpa using List.of_mem_filter hb
    rw [hle, ha', hb']
  have hsub : (l.filter fun a => rank a = r).Sublist (l.mergeSort le) :=
    List.sublist_mergeSort (trans_of_rank hle) (total_of_rank hle) hties List.filter_sublist
  -- both have the same length, as sorting permutes
  have hfilter := hsub.filter fun a => rank a = r
  rw [List.filter_filter] at hfilter
  simp only [Bool.and_self] at hfilter
  refine (hfilter.eq_of_length ?_).symm
  exact ((List.mergeSort_perm l le).filter _).length_eq.symm

end Sorting

end LexicalModel
