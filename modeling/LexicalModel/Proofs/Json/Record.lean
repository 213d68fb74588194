import LexicalModel.Proofs.Json.RoundTrip
import LexicalModel.Source

/-!
# Reading records back

A record is written as an object, one member for each field that is there.  It is read one member
after the other into a draft, each field into its own place.  A record may carry members along that
it has no field for: they are sorted, and of several with one key the last is kept.

* `ReadsAs` : a value that is read as a given datum
* `Reads` : members that take one draft to another
* `Carries` : drafts that carry members along
* `Kept` : what is carried along of the members of an object
* `RoundTrips` : a record that is read back from both of its written forms
-/

namespace LexicalModel.Json

open Value (memberNodes)

/-! ### What has been read -/

theorem enter_of_le {depth : Nat} (h : 2 ≤ depth) : enter depth = .ok (depth - 1) :=
  if_neg (by omega)

theorem eq_of_enter {depth inner : Nat} (h : enter depth = .ok inner) : inner = depth - 1 := by
  unfold enter at h
  split at h
  · cases h
  · exact (Except.ok.inj h).symm

theorem enter_mono {depth depth' inner : Nat} (h : enter depth = .ok inner)
    (hle : depth ≤ depth') : enter depth' = .ok (depth' - 1) ∧ inner ≤ depth' - 1 := by
  unfold enter at h
  split_ifs at h with hdepth
  cases h
  exact ⟨enter_of_le (by omega), by omega⟩

/-- What can be read can be read where more levels may be opened. -/
theorem Readable.mono {depth depth' : Nat} {v : Value} (h : Readable depth v)
    (hle : depth ≤ depth') : Readable depth' v := by
  induction h generalizing depth' with
  | null => exact .null
  | bool b => exact .bool b
  | number n => exact .number n
  | string s => exact .string s
  | array hinner _ ih =>
    obtain ⟨hinner', hle'⟩ := enter_mono hinner hle
    exact .array hinner' fun v hv => ih v hv hle'
  | object hinner hsorted _ ih =>
    obtain ⟨hinner', hle'⟩ := enter_mono hinner hle
    exact .object hinner' hsorted fun m hm => ih m hm hle'

theorem Carried.mono {keys : List String} {depth depth' : Nat} {ms : List (String × Value)}
    (h : Carried keys depth ms) (hle : depth ≤ depth') : Carried keys depth' ms where
  sorted := h.sorted
  unknown := h.unknown
  readable m hm := (h.readable m hm).mono hle

theorem eq_none_of_endUsed {broken : Option Break} {u : Unit} (h : endUsed broken = .ok u) :
    broken = none := by
  cases broken with
  | none => rfl
  | some b => cases h

theorem le_of_unsigned {kind : String} {largest depth k : Nat} {n : Node}
    (h : Decoder.unsigned kind largest depth n = .ok k) : k ≤ largest := by
  unfold Decoder.unsigned at h
  split at h
  · split_ifs at h with hrange
    cases h
    omega
  · cases h

section Inversion

variable {α : Type}

theorem once_ok {name : String} {old x : Option α} {decode : Except ReadError α}
    (h : Decoder.once name old decode = .ok x) : ∃ a, decode = .ok a ∧ x = some a := by
  unfold Decoder.once at h
  split at h
  · cases h
  · cases decode with
    | error e => cases h
    | ok a =>
      cases h
      exact ⟨a, rfl, rfl⟩

theorem optional_ok {decode : Decoder α} {depth : Nat} {n : Node} {a : α}
    (h : Decoder.optional decode depth n = .ok (some a)) : decode depth n = .ok a := by
  unfold Decoder.optional at h
  split at h
  · cases h
  · cases hdecode : decode depth _ with
    | error e =>
      rw [hdecode] at h
      cases h
    | ok b =>
      rw [hdecode] at h
      cases h
      rfl

/-- The next item of an array, or what stands for it when there is none. -/
theorem nextItem_ok {broken : Option Break} {missing : Except ReadError α}
    {decode : Node → Except ReadError α} {ns rest : List Node} {a : α}
    (h : Decoder.nextItem broken missing decode ns = .ok (a, rest)) :
    (∃ n, ns = n :: rest ∧ decode n = .ok a) ∨ ns = [] ∧ rest = [] ∧ missing = .ok a := by
  cases ns with
  | nil =>
    obtain ⟨-, -, h⟩ := ok_of_bind h
    obtain ⟨b, hb, h⟩ := ok_of_bind h
    cases h
    exact .inr ⟨rfl, rfl, hb⟩
  | cons n ns =>
    obtain ⟨b, hb, h⟩ := ok_of_bind h
    cases h
    exact .inl ⟨n, rfl, hb⟩

theorem eq_cons_of_nextItem {broken : Option Break} {missing : Except ReadError α}
    {decode : Node → Except ReadError α} {ns rest : List Node} {n : Node} {a : α}
    (h : Decoder.nextItem broken missing decode ns = .ok (a, n :: rest)) :
    ∃ n', ns = n' :: n :: rest := by
  rcases nextItem_ok h with ⟨n', hns, -⟩ | ⟨-, hrest, -⟩
  · exact ⟨n', hns⟩
  · cases hrest

theorem ok_of_decode {decode : Decoder α} {doc : Document} {a : α}
    (h : doc.decode decode = .ok a) : decode maxDepth doc.root = .ok a := by
  obtain ⟨b, hb, h⟩ := ok_of_bind h
  split at h
  · cases h
    exact hb
  · cases h

theorem ok_of_decodeBytes {decode : Decoder α} {bytes : ByteArray} {a : α}
    (h : decodeBytes decode bytes = .ok a) : ∃ n, decode maxDepth n = .ok a := by
  unfold decodeBytes at h
  split at h
  · exact ⟨_, ok_of_decode h⟩
  · exact ⟨_, ok_of_decode h⟩

section Shapes

variable {name : String}
  {ofMembers : Nat → List (Option String × Node) → Option Break → Except ReadError α}
  {ofItems : Nat → List Node → Option Break → Except ReadError α} {depth : Nat} {n : Node} {a : α}

theorem record_ok (h : Decoder.record name ofMembers depth n = .ok a) :
    ∃ ns broken, n = .object ns broken ∧ ofMembers (depth - 1) ns broken = .ok a := by
  cases n with
  | object ns broken =>
    obtain ⟨inner, henter, h⟩ := ok_of_bind h
    cases eq_of_enter henter
    exact ⟨ns, broken, rfl, h⟩
  | _ => cases h

theorem tuple_ok (h : Decoder.tuple name ofMembers ofItems depth n = .ok a) :
    (∃ ns broken, n = .object ns broken ∧ ofMembers (depth - 1) ns broken = .ok a) ∨
      ∃ items broken, n = .array items broken ∧ ofItems (depth - 1) items broken = .ok a := by
  unfold Decoder.tuple at h
  split at h
  · next items broken =>
    obtain ⟨inner, henter, h⟩ := ok_of_bind h
    cases eq_of_enter henter
    exact .inr ⟨items, broken, rfl, h⟩
  · exact .inl (record_ok h)

end Shapes

end Inversion

/-! ### Values -/

/-- The value is read as `a`.  It is not the word `null`, which stands for what is not there. -/
structure ReadsAs {α : Type} (decode : Decoder α) (depth : Nat) (v : Value) (a : α) : Prop where
  /-- What is read. -/
  read : decode depth v.toNode = .ok a
  /-- There is something. -/
  present : v.toNode ≠ .null
  /-- Its numbers are whole. -/
  whole : v.IsWhole

theorem readsAs_text (depth : Nat) (a : String) : ReadsAs Decoder.text depth (.string a) a where
  read := rfl
  present := nofun
  whole _ h := absurd h List.not_mem_nil

theorem readsAs_unsigned (depth : Nat) (kind : String) {largest n : Nat}
    (hlargest : largest ≤ maxUnsigned) (h : n ≤ largest) :
    ReadsAs (Decoder.unsigned kind largest) depth (.nat n) n where
  read := by
    change (if (0 : Int) ≤ n ∧ (n : Int) ≤ largest then _ else _) = _
    rw [if_pos ⟨Int.natCast_nonneg n, Int.ofNat_le.2 h⟩]
    rfl
  present := nofun
  whole := by
    refine List.forall_mem_singleton.2 ⟨?_, Int.ofNat_le.2 (Nat.le_trans h hlargest)⟩
    exact Int.le_trans (by decide) (Int.natCast_nonneg n)

section Values

variable {α : Type} {decode : Decoder α} {depth inner : Nat}

theorem ReadsAs.optional {v : Value} {a : α} (h : ReadsAs decode depth v a) :
    Decoder.optional decode depth v.toNode = .ok (some a) := by
  obtain ⟨hread, hpresent, -⟩ := h
  cases hnode : v.toNode with
  | null => exact absurd hnode hpresent
  | _ =>
    rw [hnode] at hread
    simp only [Decoder.optional, hread]
    rfl

theorem items_map_toNode {toJson : α → Value} {as : List α}
    (h : ∀ a ∈ as, decode depth (toJson a).toNode = .ok a) :
    Decoder.items (decode depth) ((as.map toJson).map Value.toNode) = .ok as := by
  induction as with
  | nil => rfl
  | cons a as ih =>
    obtain ⟨ha, has⟩ := List.forall_mem_cons.1 h
    rw [List.map_cons, List.map_cons, Decoder.items, ha, ih has]
    rfl

theorem readsAs_list {toJson : α → Value} (henter : enter depth = .ok inner) {as : List α}
    (h : ∀ a ∈ as, ReadsAs decode inner (toJson a) a) :
    ReadsAs (Decoder.list decode) depth (.array (as.map toJson)) as where
  read := by
    rw [Value.toNode, Value.itemNodes_eq_map, Decoder.list, henter, ok_bind,
      items_map_toNode fun a ha => (h a ha).read]
    rfl
  present := nofun
  whole := Value.isWhole_array.2 (List.forall_mem_map.2 fun a ha => (h a ha).whole)

theorem readsAs_texts (henter : enter depth = .ok inner) (as : List String) :
    ReadsAs (Decoder.list Decoder.text) depth (.strings as) as :=
  readsAs_list henter fun a _ => readsAs_text inner a

end Values

/-! ### Members -/

/-- The members take the draft `d` to `d'`, and their numbers are whole. -/
structure Reads {δ : Type} (step : δ → String → Node → Except ReadError δ) (d : δ)
    (ms : List (String × Value)) (d' : δ) : Prop where
  /-- What is read. -/
  read : Decoder.members step d (memberNodes ms) = .ok d'
  /-- The numbers. -/
  whole : ∀ m ∈ ms, m.2.IsWhole

namespace Reads

variable {δ α : Type} {step : δ → String → Node → Except ReadError δ} {d d' d'' : δ}
  {ms ms' : List (String × Value)} {key : String} {depth : Nat} {decode : Decoder α}

theorem nil (step : δ → String → Node → Except ReadError δ) (d : δ) : Reads step d [] d where
  read := rfl
  whole _ h := absurd h List.not_mem_nil

theorem append (h : Reads step d ms d') (h' : Reads step d' ms' d'') :
    Reads step d (ms ++ ms') d'' where
  read := by
    rw [Value.memberNodes_append]
    exact Decoder.members_append h.read h'.read
  whole := List.forall_mem_append.2 ⟨h.whole, h'.whole⟩

theorem cons {m : String × Value} (h : Reads step d [m] d') (h' : Reads step d' ms d'') :
    Reads step d (m :: ms) d'' :=
  h.append h'

/-- A field that is always written. -/
theorem field {v : Value} {a : α} (set : δ → Option α → δ)
    (hstep : ∀ n, step d key n = do
      let x ← Decoder.once key none (decode depth n)
      return set d x)
    (h : ReadsAs decode depth v a) : Reads step d [(key, v)] (set d (some a)) where
  read := by
    rw [memberNodes, Decoder.members, hstep, h.read]
    rfl
  whole := List.forall_mem_singleton.2 h.whole

/-- A field that may be left out. -/
theorem optional {toJson : α → Value} {x : Option α} (set : δ → Option (Option α) → δ)
    (hnone : set d none = d)
    (hstep : ∀ n, step d key n = do
      let x ← Decoder.once key none (Decoder.optional decode depth n)
      return set d x)
    (h : ∀ a, x = some a → ReadsAs decode depth (toJson a) a) :
    Reads step d (optionalMember key toJson x) (set d (x.map some)) := by
  cases x with
  | none =>
    rw [Option.map_none, hnone]
    exact nil step d
  | some a =>
    have ha := h a rfl
    exact field set hstep ⟨ha.optional, ha.present, ha.whole⟩

end Reads

/-- What a field that may be left out comes to. -/
theorem join_map_some {α : Type} (x : Option α) : (x.map some).join = x := by
  cases x <;> rfl

/-! ### Records -/

section Records

variable {δ α : Type} {step : δ → String → Node → Except ReadError δ} {d d' : δ}
  {ms : List (String × Value)} {depth inner : Nat} {name : String}
  {ofMembers : Nat → List (Option String × Node) → Option Break → Except ReadError α}
  {ofItems : Nat → List Node → Option Break → Except ReadError α} {a : α}

theorem Reads.record (h : Reads step d ms d') (henter : enter depth = .ok inner)
    (hread : ∀ ns, Decoder.members step d ns = .ok d' → ofMembers inner ns none = .ok a) :
    ReadsAs (Decoder.record name ofMembers) depth (.object ms) a where
  read := by
    rw [Value.toNode, Decoder.record, henter]
    exact hread _ h.read
  present := nofun
  whole := Value.isWhole_object.2 h.whole

theorem Reads.tuple (h : Reads step d ms d') (henter : enter depth = .ok inner)
    (hread : ∀ ns, Decoder.members step d ns = .ok d' → ofMembers inner ns none = .ok a) :
    ReadsAs (Decoder.tuple name ofMembers ofItems) depth (.object ms) a where
  read := by
    change Decoder.record name ofMembers depth (Value.object ms).toNode = _
    exact (h.record henter hread).read
  present := nofun
  whole := Value.isWhole_object.2 h.whole

end Records

/-! ### Members that are carried along -/

/-- The last member of a key. -/
def lastMember? (key : String) (ns : List (Option String × Node)) : Option Node :=
  (ns.reverse.find? fun n => n.1 = some key).map Prod.snd

theorem lastMember?_append_singleton (key k : String) (ns : List (Option String × Node))
    (n : Node) :
    lastMember? key (ns ++ [(some k, n)]) = if k = key then some n else lastMember? key ns := by
  by_cases h : k = key <;> simp [lastMember?, h]

/-- What is carried along of the members `ns` of an object by a record with fields of the given
keys: each other member, its value that of the last of its key, in the order of their keys. -/
structure Kept (keys : List String) (depth : Nat) (ns : List (Option String × Node))
    (ms : List (String × Value)) : Prop where
  /-- They are sorted. -/
  sorted : KeySorted ms
  /-- None of them takes the place of a field. -/
  unknown : ∀ m ∈ ms, m.1 ∉ keys
  /-- Each has the value of the last member of its key. -/
  last : ∀ m ∈ ms, ∃ n, lastMember? m.1 ns = some n ∧ Decoder.value depth n = .ok m.2
  /-- No key is missing. -/
  every : ∀ key n, key ∉ keys → lastMember? key ns = some n → ∃ v, (key, v) ∈ ms

namespace Kept

variable {keys : List String} {depth : Nat} {ns : List (Option String × Node)}
  {ms : List (String × Value)}

theorem nil (keys : List String) (depth : Nat) : Kept keys depth [] [] where
  sorted := List.Pairwise.nil
  unknown _ h := absurd h List.not_mem_nil
  last _ h := absurd h List.not_mem_nil
  every _ _ _ h := nomatch h

/-- They could have been read. -/
theorem carried (h : Kept keys depth ns ms) : Carried keys depth ms where
  sorted := h.sorted
  unknown := h.unknown
  readable m hm := by
    obtain ⟨n, -, hn⟩ := h.last m hm
    exact Decoder.readable_of_value hn

/-- A field changes nothing. -/
theorem field (h : Kept keys depth ns ms) {k : String} (hk : k ∈ keys) (n : Node) :
    Kept keys depth (ns ++ [(some k, n)]) ms where
  sorted := h.sorted
  unknown := h.unknown
  last m hm := by
    have hne : k ≠ m.1 := by
      rintro rfl
      exact h.unknown m hm hk
    rw [lastMember?_append_singleton, if_neg hne]
    exact h.last m hm
  every key n' hkey hn' := by
    have hne : k ≠ key := by
      rintro rfl
      exact hkey hk
    rw [lastMember?_append_singleton, if_neg hne] at hn'
    exact h.every key n' hkey hn'

/-- Any other member takes the place of those of its key. -/
theorem insertMember (h : Kept keys depth ns ms) {k : String} (hk : k ∉ keys) {n : Node} {v : Value}
    (hv : Decoder.value depth n = .ok v) :
    Kept keys depth (ns ++ [(some k, n)]) (insertMember k v ms) where
  sorted := keySorted_insertMember k v h.sorted
  unknown m hm := by
    rcases mem_insertMember hm with rfl | hm
    · exact hk
    · exact h.unknown m hm
  last m hm := by
    rw [lastMember?_append_singleton]
    rcases (mem_insertMember_iff h.sorted).1 hm with rfl | ⟨hm, hne⟩
    · exact ⟨n, if_pos rfl, hv⟩
    · rw [if_neg hne.symm]
      exact h.last m hm
  every key n' hkey hn' := by
    rw [lastMember?_append_singleton] at hn'
    simp only [mem_insertMember_iff h.sorted]
    split_ifs at hn' with hsame
    · subst hsame
      exact ⟨v, .inl rfl⟩
    · obtain ⟨w, hw⟩ := h.every key n' hkey hn'
      exact ⟨w, .inr ⟨hw, Ne.symm hsame⟩⟩

end Kept

/-- Drafts carry members along: `carried` says which, and `carry` replaces them. -/
structure Carries {δ : Type} (keys : List String) (depth : Nat)
    (step : δ → String → Node → Except ReadError δ) (carried : δ → List (String × Value))
    (carry : δ → List (String × Value) → δ) : Prop where
  /-- A field leaves them alone. -/
  known : ∀ {d d' : δ} {key : String} {n : Node}, key ∈ keys → step d key n = .ok d' →
    carried d' = carried d
  /-- Anything else is put in its place. -/
  unknown : ∀ {d : δ} {key : String} {n : Node}, key ∉ keys → step d key n = do
    let v ← Decoder.value depth n
    return carry d (insertMember key v (carried d))
  /-- What is put there is there. -/
  carried_carry : ∀ d ms, carried (carry d ms) = ms
  /-- It replaces what was there. -/
  carry_carry : ∀ d ms ms', carry (carry d ms) ms' = carry d ms'
  /-- Nothing else depends on it. -/
  carry_carried : ∀ d, carry d (carried d) = d

namespace Carries

variable {δ : Type} {keys : List String} {depth : Nat}
  {step : δ → String → Node → Except ReadError δ} {carried : δ → List (String × Value)}
  {carry : δ → List (String × Value) → δ} (h : Carries keys depth step carried carry)
include h

/-- One member. -/
theorem kept_step {seen : List (Option String × Node)} {d d' : δ} {key : String} {n : Node}
    (hd : Kept keys depth seen (carried d)) (hstep : step d key n = .ok d') :
    Kept keys depth (seen ++ [(some key, n)]) (carried d') := by
  by_cases hkey : key ∈ keys
  · rw [h.known hkey hstep]
    exact hd.field hkey n
  · rw [h.unknown hkey] at hstep
    obtain ⟨v, hv, hstep⟩ := ok_of_bind hstep
    cases hstep
    rw [h.carried_carry]
    exact hd.insertMember hkey hv

theorem kept_members_append {seen ns : List (Option String × Node)} {d d' : δ}
    (hd : Kept keys depth seen (carried d)) (hread : Decoder.members step d ns = .ok d') :
    Kept keys depth (seen ++ ns) (carried d') := by
  induction ns generalizing seen d with
  | nil =>
    cases hread
    rw [List.append_nil]
    exact hd
  | cons n ns ih =>
    obtain ⟨key, n⟩ := n
    cases key with
    | none => cases hread
    | some key =>
      obtain ⟨d₁, hstep, hread⟩ := ok_of_bind hread
      rw [List.append_cons]
      exact ih (h.kept_step hd hstep) hread

/-- **What is carried along of all members.** -/
theorem kept_members {ns : List (Option String × Node)} {d d' : δ} (hd : carried d = [])
    (hread : Decoder.members step d ns = .ok d') : Kept keys depth ns (carried d') := by
  have hnil := Kept.nil keys depth
  rw [← hd] at hnil
  exact h.kept_members_append hnil hread

/-- Members that can be carried along are read back. -/
theorem reads_append {d : δ} {ms : List (String × Value)}
    (hsorted : KeySorted (carried d ++ ms)) (hunknown : ∀ m ∈ ms, m.1 ∉ keys)
    (hreadable : ∀ m ∈ ms, Readable depth m.2) (hwhole : ∀ m ∈ ms, m.2.IsWhole) :
    Reads step d ms (carry d (carried d ++ ms)) := by
  refine ⟨?_, hwhole⟩
  clear hwhole
  induction ms generalizing d with
  | nil =>
    rw [List.append_nil, h.carry_carried]
    rfl
  | cons m ms ih =>
    obtain ⟨hkey, hkeys⟩ := List.forall_mem_cons.1 hunknown
    obtain ⟨hvalue, hvalues⟩ := List.forall_mem_cons.1 hreadable
    -- its key comes after all those before it, so that it is put at the end
    have hlast : ∀ m' ∈ carried d, m'.1 < m.1 := fun m' hm' =>
      (List.pairwise_append.1 hsorted).2.2 m' hm' m List.mem_cons_self
    have hstep : step d m.1 m.2.toNode = .ok (carry d (carried d ++ [m])) := by
      rw [h.unknown hkey, Decoder.value_toNode hvalue, ← insertMember_of_lt hlast]
      rfl
    have hrest := ih (d := carry d (carried d ++ [m]))
    rw [h.carried_carry, h.carry_carry, ← List.append_cons] at hrest
    rw [memberNodes, Decoder.members, hstep]
    exact hrest hsorted hkeys hvalues

theorem reads {d : δ} {ms : List (String × Value)} (hd : carried d = [])
    (hms : Carried keys depth ms) (hwhole : ∀ m ∈ ms, m.2.IsWhole) :
    Reads step d ms (carry d ms) := by
  have hsorted := hms.sorted
  rw [← List.nil_append ms, ← hd] at hsorted
  have hreads := h.reads_append hsorted hms.unknown hms.readable hwhole
  rw [hd] at hreads
  exact hreads

end Carries

/-! ### Whole documents -/

/-- The record is read back from both of its written forms, and written again it has the same
text. -/
structure RoundTrips {α : Type} (decode : Decoder α) (toJson : α → Value) (a : α) : Prop where
  /-- From a text. -/
  text : ∀ f : Form, decodeText decode (f.write (toJson a)) = .ok a
  /-- From the bytes of a text. -/
  bytes : ∀ f : Form, decodeBytes decode (Text.Utf8.encode (f.write (toJson a))) = .ok a
  /-- Written again. -/
  again : ∀ (f f' : Form) (b : α), decodeText decode (f.write (toJson a)) = .ok b →
    f'.write (toJson b) = f'.write (toJson a)

theorem ReadsAs.roundTrips {α : Type} {decode : Decoder α} {toJson : α → Value} {a : α}
    (h : ReadsAs decode maxDepth (toJson a) a) : RoundTrips decode toJson a := by
  have htext : ∀ f : Form, decodeText decode (f.write (toJson a)) = .ok a := by
    intro f
    rw [decodeText, f.parse_write h.whole, Document.decode, h.read]
    rfl
  refine ⟨htext, fun f => ?_, fun f f' b hb => ?_⟩
  · rw [decodeBytes_encode]
    exact htext f
  · cases (htext f).symm.trans hb
    rfl

end LexicalModel.Json
