import LexicalModel.Proofs.Failure
import LexicalModel.Proofs.Json.Written

/-!
# Reading what was written

Both written forms of a value are texts of it, and so they are read back.  What a decoder makes of
the node that comes out is the value again, provided that it is one that decoders make: its objects
are sorted by key, and it is not nested too deeply.

* `Form.parse_write` : the document that a written form holds
* `Readable` : the values that decoders make
* `Decoder.value_toNode`, `Decoder.readable_of_value` : they are just those that are read back
* `Carried` : the members that a record carries along beside its fields
-/

namespace LexicalModel

theorem Text.Utf8.decode_encode (s : String) : decode (encode s) = .ok s := by
  have hvalid : String.fromUTF8? (encode s) = some s := dif_pos s.isValidUTF8
  rw [decode, hvalid]

namespace Json

/-! ### Induction -/

/-- What holds of a value if it holds of its items or of the values of its members holds of all
values. -/
@[elab_as_elim]
theorem Value.induction {motive : Value → Prop} (null : motive .null)
    (bool : ∀ b, motive (.bool b)) (number : ∀ n, motive (.number n))
    (string : ∀ s, motive (.string s))
    (array : ∀ items, (∀ v ∈ items, motive v) → motive (.array items))
    (object : ∀ members, (∀ m ∈ members, motive m.2) → motive (.object members)) (v : Value) :
    motive v := by
  refine @Value.rec motive (fun items => ∀ v ∈ items, motive v)
    (fun members => ∀ m ∈ members, motive m.2) (fun m => motive m.2) null bool number string array
    object ?_ ?_ ?_ ?_ ?_ v
  · exact fun v h => absurd h List.not_mem_nil
  · exact fun v vs hv hvs => List.forall_mem_cons.2 ⟨hv, hvs⟩
  · exact fun m h => absurd h List.not_mem_nil
  · exact fun m ms hm hms => List.forall_mem_cons.2 ⟨hm, hms⟩
  · exact fun k v hv => hv

@[elab_as_elim]
theorem Node.induction {motive : Node → Prop} (null : motive .null) (bool : ∀ b, motive (.bool b))
    (number : ∀ n, motive (.number n)) (string : ∀ s, motive (.string s))
    (array : ∀ items broken, (∀ n ∈ items, motive n) → motive (.array items broken))
    (object : ∀ members broken, (∀ m ∈ members, motive m.2) → motive (.object members broken))
    (broken : ∀ b, motive (.broken b)) (n : Node) : motive n := by
  refine @Node.rec motive (fun items => ∀ n ∈ items, motive n)
    (fun members => ∀ m ∈ members, motive m.2) (fun m => motive m.2) null bool number string array
    object broken ?_ ?_ ?_ ?_ ?_ n
  · exact fun n h => absurd h List.not_mem_nil
  · exact fun n ns hn hns => List.forall_mem_cons.2 ⟨hn, hns⟩
  · exact fun m h => absurd h List.not_mem_nil
  · exact fun m ms hm hms => List.forall_mem_cons.2 ⟨hm, hms⟩
  · exact fun k n hn => hn

namespace Value

theorem itemNodes_eq_map (vs : List Value) : itemNodes vs = vs.map toNode := by
  induction vs with
  | nil => rfl
  | cons v vs ih => rw [itemNodes, ih, List.map_cons]

theorem memberNodes_eq_map (ms : List (String × Value)) :
    memberNodes ms = ms.map fun m => (some m.1, m.2.toNode) := by
  induction ms with
  | nil => rfl
  | cons m ms ih => rw [memberNodes, ih, List.map_cons]

theorem memberNodes_append (ms ms' : List (String × Value)) :
    memberNodes (ms ++ ms') = memberNodes ms ++ memberNodes ms' := by
  rw [memberNodes_eq_map, memberNodes_eq_map, memberNodes_eq_map, List.map_append]

theorem prettyItems_eq_map (depth : Nat) (vs : List Value) :
    prettyItems depth vs = vs.map (prettyChars depth) := by
  induction vs with
  | nil => rfl
  | cons v vs ih => rw [prettyItems, ih, List.map_cons]

theorem prettyMembers_eq_map (depth : Nat) (ms : List (String × Value)) :
    prettyMembers depth ms =
      ms.map fun m => stringChars m.1 ++ ':' :: ' ' :: m.2.prettyChars depth := by
  induction ms with
  | nil => rfl
  | cons m ms ih => rw [prettyMembers, ih, List.map_cons]

theorem compactItems_eq_map (vs : List Value) : compactItems vs = vs.map compactChars := by
  induction vs with
  | nil => rfl
  | cons v vs ih => rw [compactItems, ih, List.map_cons]

theorem compactMembers_eq_map (ms : List (String × Value)) :
    compactMembers ms = ms.map fun m => stringChars m.1 ++ ':' :: m.2.compactChars := by
  induction ms with
  | nil => rfl
  | cons m ms ih => rw [compactMembers, ih, List.map_cons]

/-! ### The written forms -/

mutual

/-- The numbers in a value. -/
def numbers : Value → List Number
  | .number n => [n]
  | .array items => itemNumbers items
  | .object members => memberNumbers members
  | .null | .bool _ | .string _ => []

/-- The numbers in items. -/
def itemNumbers : List Value → List Number
  | [] => []
  | v :: vs => v.numbers ++ itemNumbers vs

/-- The numbers in members. -/
def memberNumbers : List (String × Value) → List Number
  | [] => []
  | (_, v) :: ms => v.numbers ++ memberNumbers ms

end

theorem itemNumbers_eq_flatMap (vs : List Value) : itemNumbers vs = vs.flatMap numbers := by
  induction vs with
  | nil => rfl
  | cons v vs ih => rw [itemNumbers, ih, List.flatMap_cons]

theorem memberNumbers_eq_flatMap (ms : List (String × Value)) :
    memberNumbers ms = ms.flatMap fun m => m.2.numbers := by
  induction ms with
  | nil => rfl
  | cons m ms ih => rw [memberNumbers, ih, List.flatMap_cons]

/-- The value has no other numbers than whole ones. -/
def IsWhole (v : Value) : Prop := ∀ n ∈ v.numbers, n.IsWhole

theorem isWhole_array {vs : List Value} : (array vs).IsWhole ↔ ∀ v ∈ vs, v.IsWhole := by
  simp only [IsWhole, numbers, itemNumbers_eq_flatMap, List.mem_flatMap]
  exact ⟨fun h v hv n hn => h n ⟨v, hv, hn⟩, fun h n ⟨v, hv, hn⟩ => h v hv n hn⟩

theorem isWhole_object {ms : List (String × Value)} :
    (object ms).IsWhole ↔ ∀ m ∈ ms, m.2.IsWhole := by
  simp only [IsWhole, numbers, memberNumbers_eq_flatMap, List.mem_flatMap]
  exact ⟨fun h v hv n hn => h n ⟨v, hv, hn⟩, fun h n ⟨v, hv, hn⟩ => h v hv n hn⟩

theorem blank_newline (depth : Nat) : Blank (newline depth) := by
  intro c hc
  simp only [newline, List.mem_cons, List.mem_replicate] at hc
  rcases hc with rfl | ⟨-, rfl⟩ <;> rfl

theorem blank_nil : Blank [] := by simp [Blank]

/-- Items with the same white space in front of each are the items of an array. -/
theorem writtenItems_commaSep {text : Value → List Char} {before after : List Char}
    (hbefore : Blank before) (hafter : Blank after) (v : Value) (vs : List Value)
    (h : ∀ w ∈ v :: vs, Written w (text w)) :
    WrittenItems (v :: vs) (commaSep ((v :: vs).map fun w => before ++ text w) ++ after) := by
  induction vs generalizing v with
  | nil => exact .last hbefore (h v List.mem_cons_self) hafter
  | cons w vs ih =>
    have hlater := ih w fun w' hw' => h w' (List.mem_cons_of_mem v hw')
    have hall := WrittenItems.cons hbefore (h v List.mem_cons_self) blank_nil hlater
    simpa only [List.append_nil, List.append_assoc, List.cons_append, List.map_cons,
      commaSep] using hall

theorem writtenMembers_commaSep {text : Value → List Char} {before between after : List Char}
    (hbefore : Blank before) (hbetween : Blank between) (hafter : Blank after) (m : String × Value)
    (ms : List (String × Value)) (h : ∀ m' ∈ m :: ms, Written m'.2 (text m'.2)) :
    WrittenMembers (m :: ms)
      (commaSep ((m :: ms).map fun m' =>
        before ++ (stringChars m'.1 ++ ':' :: between ++ text m'.2)) ++ after) := by
  induction ms generalizing m with
  | nil =>
    have hall := WrittenMembers.last (k := m.1) hbefore hbetween (h m List.mem_cons_self) hafter
    simpa only [List.append_nil, List.append_assoc, List.cons_append, List.map_cons,
      List.map_nil, commaSep] using hall
  | cons m' ms ih =>
    have hlater := ih m' fun m'' hm'' => h m'' (List.mem_cons_of_mem m hm'')
    have hall := WrittenMembers.cons (k := m.1) hbefore hbetween (h m List.mem_cons_self) blank_nil
      hlater
    simpa only [List.append_nil, List.append_assoc, List.cons_append, List.map_cons,
      commaSep] using hall

theorem written_prettyChars (depth : Nat) {v : Value} (h : v.IsWhole) :
    Written v (v.prettyChars depth) := by
  induction v using Value.induction generalizing depth with
  | null => exact .null
  | bool b => cases b <;> constructor
  | number n => exact .number (h n List.mem_cons_self)
  | string s => exact .string s
  | array items ih =>
    rw [isWhole_array] at h
    cases items with
    | nil => exact .emptyArray blank_nil
    | cons v vs =>
      have hitems := writtenItems_commaSep (blank_newline (depth + 1)) (blank_newline depth) v vs
        fun w hw => ih w hw (depth + 1) (h w hw)
      rw [prettyChars, prettyItems_eq_map]
      simpa [block, Function.comp_def] using Written.array hitems
  | object members ih =>
    rw [isWhole_object] at h
    cases members with
    | nil => exact .emptyObject blank_nil
    | cons m ms =>
      have hblank : Blank [' '] := by simp [Blank, isSpace]
      have hmembers := writtenMembers_commaSep (blank_newline (depth + 1)) hblank
        (blank_newline depth) m ms fun m' hm' => ih m' hm' (depth + 1) (h m' hm')
      rw [prettyChars, prettyMembers_eq_map]
      simpa [block, Function.comp_def] using Written.object hmembers

theorem written_compactChars {v : Value} (h : v.IsWhole) : Written v v.compactChars := by
  induction v using Value.induction with
  | null => exact .null
  | bool b => cases b <;> constructor
  | number n => exact .number (h n List.mem_cons_self)
  | string s => exact .string s
  | array items ih =>
    rw [isWhole_array] at h
    cases items with
    | nil => exact .emptyArray blank_nil
    | cons v vs =>
      have hitems := writtenItems_commaSep blank_nil blank_nil v vs fun w hw => ih w hw (h w hw)
      rw [compactChars, compactItems_eq_map]
      simpa using Written.array hitems
  | object members ih =>
    rw [isWhole_object] at h
    cases members with
    | nil => exact .emptyObject blank_nil
    | cons m ms =>
      have hmembers := writtenMembers_commaSep blank_nil blank_nil blank_nil m ms
        fun m' hm' => ih m' hm' (h m' hm')
      rw [compactChars, compactMembers_eq_map]
      simpa using Written.object hmembers

end Value

theorem parse_of_written {v : Value} {cs : List Char} (h : Written v cs) :
    Document.parse (String.ofList cs) = ⟨v.toNode, none⟩ := by
  have hend : EndsNumber [] := by simp [EndsNumber]
  have hread : readNode .last (2 * cs.length + 2) (cs ++ []) = (v.toNode, some []) :=
    readNode_written .last h (by omega) hend
  rw [List.append_nil] at hread
  simp only [Document.parse, Document.read, String.toList_ofList, hread]
  rfl

/-- The forms in which values are written. -/
inductive Form where
  /-- On lines of their own. -/
  | pretty
  /-- Without white space. -/
  | compact
  deriving DecidableEq, Repr

/-- The text of a value. -/
def Form.write : Form → Value → String
  | pretty, v => v.pretty
  | compact, v => v.compact

/-- **The document that a written form holds.** -/
theorem Form.parse_write (f : Form) {v : Value} (h : v.IsWhole) :
    Document.parse (f.write v) = ⟨v.toNode, none⟩ := by
  cases f with
  | pretty => exact parse_of_written (Value.written_prettyChars 0 h)
  | compact => exact parse_of_written (Value.written_compactChars h)

theorem decodeBytes_encode {α : Type} (decode : Decoder α) (s : String) :
    decodeBytes decode (Text.Utf8.encode s) = decodeText decode s := by
  rw [decodeBytes, Text.Utf8.decode_encode]

/-! ### Sorted members -/

/-- The keys of the members increase. -/
def KeySorted (ms : List (String × Value)) : Prop := ms.Pairwise fun m m' => m.1 < m'.1

theorem mem_insertMember {key : String} {v : Value} {m : String × Value}
    {ms : List (String × Value)} (h : m ∈ insertMember key v ms) : m = (key, v) ∨ m ∈ ms := by
  induction ms with
  | nil => exact .inl (List.mem_singleton.1 h)
  | cons m' ms ih =>
    obtain ⟨k, w⟩ := m'
    rw [insertMember] at h
    split_ifs at h
    · exact List.mem_cons.1 h
    · exact (List.mem_cons.1 h).imp_right (List.mem_cons_of_mem _)
    · rcases List.mem_cons.1 h with rfl | h
      · exact .inr List.mem_cons_self
      · exact (ih h).imp_right (List.mem_cons_of_mem _)

theorem keySorted_insertMember (key : String) (v : Value) {ms : List (String × Value)}
    (h : KeySorted ms) : KeySorted (insertMember key v ms) := by
  induction ms with
  | nil => exact List.pairwise_singleton _ _
  | cons m ms ih =>
    obtain ⟨k, w⟩ := m
    obtain ⟨hfirst, hrest⟩ := List.pairwise_cons.1 h
    rw [insertMember]
    split_ifs with hlt heq
    · refine List.pairwise_cons.2 ⟨fun m hm => ?_, h⟩
      rcases List.mem_cons.1 hm with rfl | hm
      · exact hlt
      · exact String.lt_trans hlt (hfirst m hm)
    · subst heq
      exact List.pairwise_cons.2 ⟨hfirst, hrest⟩
    · refine List.pairwise_cons.2 ⟨fun m hm => ?_, ih hrest⟩
      rcases mem_insertMember hm with rfl | hm
      · exact Std.lt_of_le_of_ne (String.not_lt.1 hlt) (Ne.symm heq)
      · exact hfirst m hm

theorem insertMember_of_lt {key : String} {v : Value} {ms : List (String × Value)}
    (h : ∀ m ∈ ms, m.1 < key) : insertMember key v ms = ms ++ [(key, v)] := by
  induction ms with
  | nil => rfl
  | cons m ms ih =>
    obtain ⟨hfirst, hrest⟩ := List.forall_mem_cons.1 h
    have hlt : ¬key < m.1 := String.lt_asymm hfirst
    have hne : key ≠ m.1 := fun he => String.lt_irrefl _ (he ▸ hfirst)
    rw [insertMember, if_neg hlt, if_neg hne, ih hrest, List.cons_append]

theorem foldl_insertMember {acc ms : List (String × Value)} (h : KeySorted (acc ++ ms)) :
    ms.foldl (fun acc m => insertMember m.1 m.2 acc) acc = acc ++ ms := by
  induction ms generalizing acc with
  | nil => exact (List.append_nil acc).symm
  | cons m ms ih =>
    have hlt : ∀ m' ∈ acc, m'.1 < m.1 := fun m' hm' =>
      (List.pairwise_append.1 h).2.2 m' hm' m List.mem_cons_self
    rw [List.append_cons] at h
    rw [List.foldl_cons, insertMember_of_lt hlt, ih h, ← List.append_cons]

/-- Sorted members stay as they are. -/
theorem sortMembers_of_keySorted {ms : List (String × Value)} (h : KeySorted ms) :
    sortMembers ms = ms :=
  foldl_insertMember (show KeySorted ([] ++ ms) from h)

theorem keySorted_sortMembers (ms : List (String × Value)) : KeySorted (sortMembers ms) := by
  refine List.foldlRecOn ms _ List.Pairwise.nil fun acc hacc m _ => ?_
  exact keySorted_insertMember m.1 m.2 hacc

theorem mem_of_mem_sortMembers {m : String × Value} {ms : List (String × Value)}
    (h : m ∈ sortMembers ms) : m ∈ ms := by
  have hall : ∀ m' ∈ sortMembers ms, m' ∈ ms := by
    refine List.foldlRecOn (motive := fun acc => ∀ m' ∈ acc, m' ∈ ms) ms _
      (fun m' h => absurd h List.not_mem_nil) fun acc hacc m' hm' m'' hm'' => ?_
    rcases mem_insertMember hm'' with rfl | hm''
    · exact hm'
    · exact hacc m'' hm''
  exact hall m h

/-- Among sorted members the new one takes the place of the one of its key, and all others stay. -/
theorem mem_insertMember_iff {key : String} {v : Value} {m : String × Value}
    {ms : List (String × Value)} (h : KeySorted ms) :
    m ∈ insertMember key v ms ↔ m = (key, v) ∨ m ∈ ms ∧ m.1 ≠ key := by
  induction ms with
  | nil => simp [insertMember]
  | cons m' ms ih =>
    obtain ⟨k, w⟩ := m'
    obtain ⟨hfirst, hrest⟩ := List.pairwise_cons.1 h
    have hlater : ∀ {k' : String}, ¬k < k' → ∀ m ∈ ms, m.1 ≠ k' := by
      rintro k' hle m hm rfl
      exact hle (hfirst m hm)
    rw [insertMember]
    split_ifs with hlt heq
    · have hne : ∀ m ∈ (k, w) :: ms, m.1 ≠ key :=
        List.forall_mem_cons.2 ⟨(Std.ne_of_lt hlt).symm, hlater (String.lt_asymm hlt)⟩
      rw [List.mem_cons, and_iff_left_of_imp (hne m)]
    · subst heq
      have hne := hlater (String.lt_irrefl key) m
      grind
    · rw [List.mem_cons, ih hrest, List.mem_cons]
      grind

/-! ### Values that can be read -/

/-- A value that can be read where `depth` says how many more levels may be opened, less one: it is
not nested more deeply, and the members of its objects are sorted. -/
inductive Readable : Nat → Value → Prop
  | null {depth : Nat} : Readable depth .null
  | bool {depth : Nat} (b : Bool) : Readable depth (.bool b)
  | number {depth : Nat} (n : Number) : Readable depth (.number n)
  | string {depth : Nat} (s : String) : Readable depth (.string s)
  | array {depth inner : Nat} {items : List Value} : enter depth = .ok inner →
    (∀ v ∈ items, Readable inner v) → Readable depth (.array items)
  | object {depth inner : Nat} {members : List (String × Value)} : enter depth = .ok inner →
    KeySorted members → (∀ m ∈ members, Readable inner m.2) → Readable depth (.object members)

namespace Decoder

theorem valueItems_map_toNode {depth : Nat} {vs : List Value}
    (h : ∀ v ∈ vs, value depth v.toNode = .ok v) :
    valueItems depth (vs.map Value.toNode) = .ok vs := by
  induction vs with
  | nil => rfl
  | cons v vs ih =>
    obtain ⟨hv, hvs⟩ := List.forall_mem_cons.1 h
    rw [List.map_cons, valueItems, hv, ih hvs]
    rfl

theorem valueMembers_map_toNode {depth : Nat} {ms : List (String × Value)}
    (h : ∀ m ∈ ms, value depth m.2.toNode = .ok m.2) :
    valueMembers depth (ms.map fun m => (some m.1, m.2.toNode)) = .ok ms := by
  induction ms with
  | nil => rfl
  | cons m ms ih =>
    obtain ⟨hm, hms⟩ := List.forall_mem_cons.1 h
    rw [List.map_cons, valueMembers, hm, ih hms]
    rfl

/-- A value that can be read is read from its node. -/
theorem value_toNode {depth : Nat} {v : Value} (h : Readable depth v) :
    value depth v.toNode = .ok v := by
  induction h with
  | null => rfl
  | bool b => rfl
  | number n => rfl
  | string s => rfl
  | array henter _ ih =>
    rw [Value.toNode, Value.itemNodes_eq_map, value, henter]
    change (valueItems _ _ >>= _) = _
    rw [valueItems_map_toNode ih]
    rfl
  | object henter hsorted _ ih =>
    rw [Value.toNode, Value.memberNodes_eq_map, value, henter]
    change (valueMembers _ _ >>= _) = _
    rw [valueMembers_map_toNode ih]
    change Except.ok (Value.object (sortMembers _)) = _
    rw [sortMembers_of_keySorted hsorted]

theorem readable_valueItems {depth : Nat} {ns : List Node} {vs : List Value}
    (h : valueItems depth ns = .ok vs)
    (hnodes : ∀ n ∈ ns, ∀ v, value depth n = .ok v → Readable depth v) :
    ∀ v ∈ vs, Readable depth v := by
  induction ns generalizing vs with
  | nil =>
    cases h
    exact fun v hv => absurd hv List.not_mem_nil
  | cons n ns ih =>
    obtain ⟨hn, hns⟩ := List.forall_mem_cons.1 hnodes
    obtain ⟨v, hv, h⟩ := ok_of_bind h
    obtain ⟨vs, hvs, h⟩ := ok_of_bind h
    cases h
    exact List.forall_mem_cons.2 ⟨hn v hv, ih hvs hns⟩

theorem readable_valueMembers {depth : Nat} {ns : List (Option String × Node)}
    {ms : List (String × Value)} (h : valueMembers depth ns = .ok ms)
    (hnodes : ∀ n ∈ ns, ∀ v, value depth n.2 = .ok v → Readable depth v) :
    ∀ m ∈ ms, Readable depth m.2 := by
  induction ns generalizing ms with
  | nil =>
    cases h
    exact fun m hm => absurd hm List.not_mem_nil
  | cons n ns ih =>
    obtain ⟨key, n⟩ := n
    cases key with
    | none => cases h
    | some key =>
      obtain ⟨hn, hns⟩ := List.forall_mem_cons.1 hnodes
      obtain ⟨v, hv, h⟩ := ok_of_bind h
      obtain ⟨ms, hms, h⟩ := ok_of_bind h
      cases h
      exact List.forall_mem_cons.2 ⟨hn v hv, ih hms hns⟩

/-- Whatever is read can be read. -/
theorem readable_of_value {depth : Nat} {n : Node} {v : Value} (h : value depth n = .ok v) :
    Readable depth v := by
  induction n using Node.induction generalizing depth v with
  | null =>
    cases h
    exact .null
  | bool b =>
    cases h
    exact .bool b
  | number n =>
    cases n with
    | none => cases h
    | some n =>
      cases h
      exact .number n
  | string s =>
    cases s with
    | none => cases h
    | some s =>
      cases h
      exact .string s
  | array items broken ih =>
    obtain ⟨inner, henter, h⟩ := ok_of_bind h
    obtain ⟨vs, hvs, h⟩ := ok_of_bind h
    obtain ⟨-, -, h⟩ := ok_of_bind h
    cases h
    exact .array henter (readable_valueItems hvs fun n hn v hv => ih n hn hv)
  | object members broken ih =>
    obtain ⟨inner, henter, h⟩ := ok_of_bind h
    obtain ⟨ms, hms, h⟩ := ok_of_bind h
    obtain ⟨-, -, h⟩ := ok_of_bind h
    cases h
    have hall := readable_valueMembers hms fun n hn v hv => ih n hn hv
    exact .object henter (keySorted_sortMembers ms)
      fun m hm => hall m (mem_of_mem_sortMembers hm)
  | broken b => cases h

/-! ### Records -/

section Members

variable {δ α : Type} {step : δ → String → Node → Except ReadError δ} {d d' : δ}

theorem members_append {ms ms' : List (Option String × Node)} {r : Except ReadError δ}
    (h : members step d ms = .ok d') (h' : members step d' ms' = r) :
    members step d (ms ++ ms') = r := by
  induction ms generalizing d with
  | nil =>
    cases h
    exact h'
  | cons m ms ih =>
    obtain ⟨key, n⟩ := m
    cases key with
    | none => cases h
    | some key =>
      obtain ⟨d₁, hstep, h⟩ := ok_of_bind h
      rw [List.cons_append, members, hstep]
      exact ih h

/-- What each member preserves is preserved by all of them. -/
theorem members_invariant {P : δ → Prop} {ms : List (Option String × Node)}
    (hstep : ∀ d key n d', (some key, n) ∈ ms → step d key n = .ok d' → P d → P d')
    (h : members step d ms = .ok d') (hd : P d) : P d' := by
  induction ms generalizing d with
  | nil =>
    cases h
    exact hd
  | cons m ms ih =>
    obtain ⟨key, n⟩ := m
    cases key with
    | none => cases h
    | some key =>
      obtain ⟨d₁, hd₁, h⟩ := ok_of_bind h
      have hfirst := hstep d key n d₁ List.mem_cons_self hd₁ hd
      exact ih (fun d key n d' hmem => hstep d key n d' (List.mem_cons_of_mem _ hmem)) h hfirst

end Members

end Decoder

/-- Members that a record carries along beside those with the given keys, as they are read. -/
structure Carried (keys : List String) (depth : Nat) (ms : List (String × Value)) : Prop where
  /-- They are sorted. -/
  sorted : KeySorted ms
  /-- None of them takes the place of a field. -/
  unknown : ∀ m ∈ ms, m.1 ∉ keys
  /-- Their values can be read. -/
  readable : ∀ m ∈ ms, Readable depth m.2

end Json

end LexicalModel
