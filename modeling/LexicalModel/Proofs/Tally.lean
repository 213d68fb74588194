import LexicalModel.WordList
import Mathlib.Algebra.GroupWithZero.Nat
import Mathlib.Data.List.Dedup
import Mathlib.Data.List.Induction

/-!
# The counts of words add up

`WordList.tally` keeps a list of words with their counts and updates it line by line.  What it
amounts to is said here without any order: every distinct word once, with the sum of all its counts.
Sums are taken in 64 bits, where the order of the summands makes no difference either.

* `WordList.sumOf` : the sum of counts
* `WordList.countOf` : the sum of the counts of a word
* `WordList.totals` : the distinct words with these sums
* `WordList.tally_perm_totals` : the tally is that list, in some order
* `WordList.InFirstOrder`, `WordList.inFirstOrder_tally` : which order that is
* `WordList.sumOf_tally` : no count is lost
-/

namespace LexicalModel

namespace WordList

/-- The sum of counts, in 64 bits. -/
def sumOf (cs : List WordCount) : UInt64 := cs.foldr (fun c n => c.count + n) 0

/-- The sum of the counts of a word. -/
def countOf (w : String) (cs : List WordCount) : UInt64 := sumOf (cs.filter fun c => c.word = w)

@[simp] theorem sumOf_nil : sumOf [] = 0 := rfl

@[simp] theorem sumOf_cons (c : WordCount) (cs : List WordCount) :
    sumOf (c :: cs) = c.count + sumOf cs := rfl

theorem sumOf_append (cs cs' : List WordCount) : sumOf (cs ++ cs') = sumOf cs + sumOf cs' := by
  induction cs with
  | nil => simp
  | cons c cs ih => simp [ih, UInt64.add_assoc]

theorem sumOf_swap (c d : WordCount) (n : UInt64) :
    c.count + (d.count + n) = d.count + (c.count + n) := by
  rw [← UInt64.add_assoc, UInt64.add_comm c.count, UInt64.add_assoc]

theorem sumOf_perm {cs cs' : List WordCount} (h : cs.Perm cs') : sumOf cs = sumOf cs' := by
  induction h with
  | nil => rfl
  | cons c _ ih => rw [sumOf_cons, sumOf_cons, ih]
  | swap c d cs => exact sumOf_swap d c (sumOf cs)
  | trans _ _ ih ih' => exact ih.trans ih'

/-- Every distinct word, with the sum of its counts. -/
def totals (cs : List WordCount) : List WordCount :=
  (cs.map WordCount.word).dedup.map fun w => ⟨w, countOf w cs⟩

/-- The words of counts, as `tally` keeps them: none twice. -/
def Distinct (cs : List WordCount) : Prop := (cs.map WordCount.word).Nodup

/-- A word that is counted again keeps its place, a new one comes last. -/
theorem words_add (c : WordCount) (cs : List WordCount) :
    (add c cs).map WordCount.word =
      if c.word ∈ cs.map WordCount.word then cs.map WordCount.word
      else cs.map WordCount.word ++ [c.word] := by
  induction cs with
  | nil => simp [add]
  | cons d ds ih =>
    by_cases hd : d.word = c.word
    · simp [add, hd]
    · have hne : ¬c.word = d.word := fun h => hd h.symm
      simp only [add, if_neg hd, List.map_cons, ih, List.mem_cons, hne, false_or]
      split_ifs <;> rfl

theorem mem_words_add {c : WordCount} {cs : List WordCount} {w : String} :
    w ∈ (add c cs).map WordCount.word ↔ w = c.word ∨ w ∈ cs.map WordCount.word := by
  rw [words_add]
  split_ifs with hc
  · constructor
    · exact .inr
    · rintro (rfl | hw)
      · exact hc
      · exact hw
  · rw [List.mem_append, List.mem_singleton, or_comm]

theorem distinct_add {c : WordCount} {cs : List WordCount} (h : Distinct cs) :
    Distinct (add c cs) := by
  rw [Distinct, words_add]
  split_ifs with hc
  · exact h
  · rw [← List.concat_eq_append]
    exact h.concat hc

/-- A step adds its count, wherever the word stands. -/
theorem sumOf_add (c : WordCount) (cs : List WordCount) :
    sumOf (add c cs) = c.count + sumOf cs := by
  induction cs with
  | nil => rfl
  | cons d ds ih =>
    simp only [add]
    split_ifs with hd
    · rw [sumOf_cons, sumOf_cons, UInt64.add_comm d.count, UInt64.add_assoc]
    · rw [sumOf_cons, sumOf_cons, ih]
      exact sumOf_swap d c (sumOf ds)

theorem filter_add (w : String) (c : WordCount) (cs : List WordCount) :
    ((add c cs).filter fun d => d.word = w) =
      if c.word = w then add c (cs.filter fun d => d.word = w)
      else cs.filter fun d => d.word = w := by
  induction cs with
  | nil => simp [add, List.filter_cons]
  | cons d ds ih =>
    by_cases hd : d.word = c.word
    · by_cases hc : c.word = w <;> simp [add, hd, hc]
    · by_cases hw : d.word = w
      · have hc : ¬c.word = w := fun h => hd (hw.trans h.symm)
        simp_all [add]
      · simp_all [add]

theorem countOf_add (w : String) (c : WordCount) (cs : List WordCount) :
    countOf w (add c cs) = countOf w cs + countOf w [c] := by
  rw [countOf, filter_add]
  split_ifs with hc
  · simp [countOf, sumOf_add, hc, UInt64.add_comm]
  · simp [countOf, hc]

theorem tally_append (cs : List WordCount) (c : WordCount) :
    tally (cs ++ [c]) = add c (tally cs) := by
  simp [tally]

theorem distinct_tally (cs : List WordCount) : Distinct (tally cs) := by
  induction cs using List.reverseRecOn with
  | nil => simp [Distinct, tally]
  | append_singleton cs c ih =>
    rw [tally_append]
    exact distinct_add ih

theorem mem_words_tally {cs : List WordCount} {w : String} :
    w ∈ (tally cs).map WordCount.word ↔ w ∈ cs.map WordCount.word := by
  induction cs using List.reverseRecOn with
  | nil => simp [tally]
  | append_singleton cs c ih =>
    rw [tally_append, mem_words_add, ih]
    simp [or_comm]

theorem countOf_tally (w : String) (cs : List WordCount) :
    countOf w (tally cs) = countOf w cs := by
  induction cs using List.reverseRecOn with
  | nil => simp [tally]
  | append_singleton cs c ih =>
    rw [tally_append, countOf_add, ih]
    simp [countOf, sumOf_append]

theorem countOf_eq_zero {w : String} {cs : List WordCount} (h : w ∉ cs.map WordCount.word) :
    countOf w cs = 0 := by
  have hnil : cs.filter (fun c => c.word = w) = [] := by
    rw [List.filter_eq_nil_iff]
    intro c hc hw
    exact h (List.mem_map.2 ⟨c, hc, by simpa using hw⟩)
  simp [countOf, hnil]

/-- Where no word comes twice, what is counted of a word is the count that stands beside it. -/
theorem countOf_of_distinct {cs : List WordCount} (h : Distinct cs) {c : WordCount} (hc : c ∈ cs) :
    countOf c.word cs = c.count := by
  induction cs with
  | nil => cases hc
  | cons d ds ih =>
    simp only [Distinct, List.map_cons, List.nodup_cons] at h
    rcases List.mem_cons.1 hc with rfl | hc
    · -- nothing after the word counts for it
      have hzero := countOf_eq_zero h.1
      simp only [countOf] at hzero
      simp [countOf, hzero]
    · have hne : d.word ≠ c.word := fun he => h.1 (he ▸ List.mem_map_of_mem hc)
      simpa [countOf, hne] using ih h.2 hc

theorem tally_eq_map (cs : List WordCount) :
    tally cs = ((tally cs).map WordCount.word).map fun w => ⟨w, countOf w cs⟩ := by
  rw [List.map_map]
  conv_lhs => rw [← List.map_id (tally cs)]
  refine List.map_congr_left fun c hc => ?_
  have hcount := countOf_of_distinct (distinct_tally cs) hc
  rw [countOf_tally] at hcount
  simp [hcount]

/-- **The tally holds every distinct word once, with the sum of its counts.** -/
theorem tally_perm_totals (cs : List WordCount) : (tally cs).Perm (totals cs) := by
  rw [tally_eq_map, totals]
  refine List.Perm.map _ ?_
  rw [List.perm_ext_iff_of_nodup (distinct_tally cs) (List.nodup_dedup _)]
  intro w
  rw [mem_words_tally, List.mem_dedup]

theorem countOf_perm {cs cs' : List WordCount} (h : cs.Perm cs') (w : String) :
    countOf w cs = countOf w cs' :=
  sumOf_perm (h.filter _)

theorem totals_perm {cs cs' : List WordCount} (h : cs.Perm cs') :
    (totals cs).Perm (totals cs') := by
  have hcount : (fun w => (⟨w, countOf w cs⟩ : WordCount)) = fun w => ⟨w, countOf w cs'⟩ := by
    funext w
    rw [countOf_perm h]
  rw [totals, totals, hcount]
  exact (h.map _).dedup.map _

/-- In which order words were counted only shows in the order of the tally. -/
theorem tally_perm {cs cs' : List WordCount} (h : cs.Perm cs') : (tally cs).Perm (tally cs') :=
  (tally_perm_totals cs).trans ((totals_perm h).trans (tally_perm_totals cs').symm)

/-! ### Order and sum -/

/-- Words in the order in which they come up first in a text of words. -/
def InFirstOrder (text words : List String) : Prop :=
  words.Pairwise fun u v => text.idxOf u < text.idxOf v

theorem InFirstOrder.append {text words : List String} (h : InFirstOrder text words)
    (hwords : ∀ w ∈ words, w ∈ text) (w : String) : InFirstOrder (text ++ [w]) words := by
  refine h.imp_of_mem fun {u v} hu hv huv => ?_
  rwa [List.idxOf_append_of_mem (hwords u hu), List.idxOf_append_of_mem (hwords v hv)]

theorem InFirstOrder.append_new {text words : List String} (h : InFirstOrder text words)
    (hwords : ∀ w ∈ words, w ∈ text) {w : String} (hnew : w ∉ text) :
    InFirstOrder (text ++ [w]) (words ++ [w]) := by
  refine List.pairwise_append.2 ⟨h.append hwords w, List.pairwise_singleton _ _, ?_⟩
  intro u hu v hv
  rw [List.mem_singleton.1 hv, List.idxOf_append_of_mem (hwords u hu),
    List.idxOf_append_of_notMem hnew]
  have hlt : text.idxOf u < text.length := List.idxOf_lt_length_of_mem (hwords u hu)
  omega

/-- **The tally lists words in the order in which they come up first.** -/
theorem inFirstOrder_tally (cs : List WordCount) :
    InFirstOrder (cs.map WordCount.word) ((tally cs).map WordCount.word) := by
  induction cs using List.reverseRecOn with
  | nil => exact List.Pairwise.nil
  | append_singleton cs c ih =>
    have hwords : ∀ w ∈ (tally cs).map WordCount.word, w ∈ cs.map WordCount.word :=
      fun w hw => mem_words_tally.1 hw
    rw [tally_append, words_add, List.map_append, List.map_singleton]
    split_ifs with hc
    · exact ih.append hwords c.word
    · exact ih.append_new hwords fun h => hc (mem_words_tally.2 h)

/-- **The counts of the tally add up to all counts.** -/
theorem sumOf_tally (cs : List WordCount) : sumOf (tally cs) = sumOf cs := by
  induction cs using List.reverseRecOn with
  | nil => rfl
  | append_singleton cs c ih =>
    rw [tally_append, sumOf_add, ih, sumOf_append, UInt64.add_comm]
    simp

end WordList

end LexicalModel
