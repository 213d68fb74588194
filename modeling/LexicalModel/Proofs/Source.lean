import LexicalModel.Proofs.Json.Record
import LexicalModel.Source

/-!
# Model descriptions are read back as they were written

A description is read from an object or from an array of its fields, and written as an object.  Its
word-breaking part carries configuration along, which is put where it was.

* `WordBreaking.readsAs_toJson`, `ModelSource.readsAs_toJson` : what is written is read back
* `WordBreaking.kept_of_decoder` : the configuration in a part that was read
* `ModelSource.wordBreaking_of_decoder` : where the word-breaking part was read from
-/

namespace LexicalModel

open Json (Value Node ReadError Decoder Carried Carries Kept Reads ReadsAs readsAs_text
  readsAs_texts enter_of_le)

theorem fst_of_mem_optionalMember {α : Type} {key : String} {toJson : α → Value} {x : Option α}
    {f : String × Value} (h : f ∈ optionalMember key toJson x) : f.1 = key := by
  cases x with
  | none => cases h
  | some a =>
    rw [List.mem_singleton.1 h]

/-! ### The word-breaking part -/

namespace WordBreaking

/-- The keys of the fields. -/
def keys : List String := ["sources", "rootClass"]

/-- The draft with another configuration. -/
def Draft.carry (d : Draft) (ms : List (String × Value)) : Draft := { d with config := ms }

theorem carries (depth : Nat) :
    Carries keys depth (Draft.step depth) Draft.config Draft.carry where
  known {d d' key n} h hstep := by
    simp only [keys, List.mem_cons, List.not_mem_nil, or_false] at h
    rcases h with rfl | rfl
    all_goals
      obtain ⟨x, -, hx⟩ := ok_of_bind hstep
      cases hx
      rfl
  unknown {d key n} h := by
    simp only [keys, List.mem_cons, List.not_mem_nil, or_false, not_or] at h
    simp only [Draft.step, h, if_false]
    rfl
  carried_carry _ _ := rfl
  carry_carry _ _ _ := rfl
  carry_carried _ := rfl

/-- The fields that are there, in order. -/
def fields (w : WordBreaking) : List (String × Value) :=
  optionalMember "sources" Value.strings w.sources ++
    optionalMember "rootClass" Value.string w.rootClass

theorem readsAs_toJson {depth : Nat} (hdepth : 3 ≤ depth) {w : WordBreaking}
    (h : Carried keys (depth - 1) w.config) (hwhole : ∀ e ∈ w.config, e.2.IsWhole) :
    ReadsAs decoder depth w.toJson w := by
  have hfields : Reads (Draft.step (depth - 1)) {} w.fields
      { sources := w.sources.map some, rootClass := w.rootClass.map some } := by
    refine Reads.append (Reads.optional (fun d x => { d with sources := x }) rfl (fun _ => rfl)
      fun as _ => readsAs_texts (enter_of_le (by omega)) as) ?_
    exact Reads.optional (fun (d : Draft) x => { d with rootClass := x }) rfl (fun _ => rfl)
      fun a _ => readsAs_text _ a
  have hall := hfields.append ((carries (depth - 1)).reads rfl h hwhole)
  refine hall.record (enter_of_le (by omega)) fun ns hns => ?_
  rw [hns, ok_bind]
  simp only [Draft.carry, Json.join_map_some]
  rfl

theorem kept_of_decoder {depth : Nat} {n : Node} {w : WordBreaking} (h : decoder depth n = .ok w) :
    ∃ ns, n = .object ns none ∧ Kept keys (depth - 1) ns w.config := by
  obtain ⟨ns, broken, rfl, hread⟩ := Json.record_ok h
  obtain ⟨d, hd, hread⟩ := ok_of_bind hread
  obtain ⟨_, hend, hread⟩ := ok_of_bind hread
  cases hread
  cases Json.eq_none_of_endUsed hend
  exact ⟨ns, rfl, (carries (depth - 1)).kept_members rfl hd⟩

end WordBreaking

/-! ### The description -/

namespace ModelSource

theorem readsAs_toJson {depth : Nat} (hdepth : 4 ≤ depth) {m : ModelSource}
    (h : ∀ w, m.wordBreaking = some w → ReadsAs WordBreaking.decoder (depth - 1) w.toJson w) :
    ReadsAs decoder depth m.toJson m := by
  have hall : Reads (Draft.step (depth - 1)) {}
      ([("format", .string m.format), ("sources", Value.strings m.sources)] ++
        optionalMember "rootClass" Value.string m.rootClass ++
        optionalMember "wordBreaking" WordBreaking.toJson m.wordBreaking)
      { format := some m.format, sources := some m.sources, rootClass := m.rootClass.map some,
        wordBreaking := m.wordBreaking.map some } := by
    simp only [List.cons_append, List.nil_append]
    refine Reads.cons (Reads.field (fun d x => { d with format := x }) (fun _ => rfl)
      (readsAs_text _ _)) ?_
    refine Reads.cons (Reads.field (fun d x => { d with sources := x }) (fun _ => rfl)
      (readsAs_texts (enter_of_le (by omega)) _)) ?_
    refine Reads.append (Reads.optional (fun d x => { d with rootClass := x }) rfl (fun _ => rfl)
      fun a _ => readsAs_text _ a) ?_
    exact Reads.optional (fun (d : Draft) x => { d with wordBreaking := x }) rfl (fun _ => rfl) h
  refine hall.tuple (enter_of_le (by omega)) fun ns hns => ?_
  rw [ofMembers, hns, ok_bind]
  simp only [Json.join_map_some]
  rfl

/-- The node of a field: the value of its key in an object, or its place in an array. -/
def IsField (key : String) (index : Nat) (root n : Node) : Prop :=
  (∃ ns broken, root = .object ns broken ∧ (some key, n) ∈ ns) ∨
    ∃ items broken, root = .array items broken ∧ items[index]? = some n

theorem wordBreaking_of_members {depth : Nat} {ns : List (Option String × Node)} {d : Draft}
    (h : Decoder.members (Draft.step depth) {} ns = .ok d) {w : WordBreaking}
    (hw : d.wordBreaking = some (some w)) :
    ∃ n, (some "wordBreaking", n) ∈ ns ∧ WordBreaking.decoder depth n = .ok w := by
  refine Decoder.members_invariant (P := fun d : Draft => ∀ w, d.wordBreaking = some (some w) →
    ∃ n, (some "wordBreaking", n) ∈ ns ∧ WordBreaking.decoder depth n = .ok w)
    (fun d key n d' hmem hstep hd => ?_) h (fun w hw => nomatch hw) w hw
  by_cases hkey : key = "wordBreaking"
  · subst hkey
    obtain ⟨x, hx, hstep⟩ := ok_of_bind hstep
    cases hstep
    obtain ⟨y, hy, rfl⟩ := Json.once_ok hx
    rintro w ⟨⟩
    exact ⟨n, hmem, Json.optional_ok hy⟩
  · -- no other member changes the word-breaking part
    rw [Draft.step, if_neg hkey] at hstep
    split_ifs at hstep
    all_goals
      obtain ⟨x, -, hstep⟩ := ok_of_bind hstep
      cases hstep
      exact hd

theorem wordBreaking_of_items {depth : Nat} {items : List Node} {broken : Option Json.Break}
    {m : ModelSource} (h : ofItems depth items broken = .ok m) {w : WordBreaking}
    (hw : m.wordBreaking = some w) :
    ∃ n, items[3]? = some n ∧ WordBreaking.decoder depth n = .ok w := by
  obtain ⟨⟨format, items₁⟩, hformat, h⟩ := ok_of_bind h
  obtain ⟨⟨sources, items₂⟩, hsources, h⟩ := ok_of_bind h
  obtain ⟨⟨rootClass, items₃⟩, hclass, h⟩ := ok_of_bind h
  obtain ⟨⟨wordBreaking, items₄⟩, hbreaking, h⟩ := ok_of_bind h
  obtain ⟨_, -, h⟩ := ok_of_bind h
  cases h
  obtain rfl : wordBreaking = some w := hw
  -- since there is a fourth item, there are three before it
  rcases Json.nextItem_ok hbreaking with ⟨n, rfl, hn⟩ | ⟨-, -, hmissing⟩
  · obtain ⟨n₃, rfl⟩ := Json.eq_cons_of_nextItem hclass
    obtain ⟨n₂, rfl⟩ := Json.eq_cons_of_nextItem hsources
    obtain ⟨n₁, rfl⟩ := Json.eq_cons_of_nextItem hformat
    exact ⟨n, rfl, Json.optional_ok hn⟩
  · cases hmissing

/-- **Where the word-breaking part was read from.** -/
theorem wordBreaking_of_decoder {depth : Nat} {root : Node} {m : ModelSource} {w : WordBreaking}
    (h : decoder depth root = .ok m) (hw : m.wordBreaking = some w) :
    ∃ n, IsField "wordBreaking" 3 root n ∧ WordBreaking.decoder (depth - 1) n = .ok w := by
  rcases Json.tuple_ok h with ⟨ns, broken, rfl, hread⟩ | ⟨items, broken, rfl, hread⟩
  · obtain ⟨d, hd, hread⟩ := ok_of_bind hread
    obtain ⟨_, -, hread⟩ := ok_of_bind hread
    obtain ⟨format, -, hread⟩ := ok_of_bind hread
    cases hread
    obtain ⟨n, hmem, hn⟩ := wordBreaking_of_members hd (Option.join_eq_some_iff.1 hw)
    exact ⟨n, .inl ⟨ns, broken, rfl, hmem⟩, hn⟩
  · obtain ⟨n, hitem, hn⟩ := wordBreaking_of_items hread hw
    exact ⟨n, .inr ⟨items, broken, rfl, hitem⟩, hn⟩

end ModelSource

end LexicalModel
