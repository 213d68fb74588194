import LexicalModel.Proofs.Json.RoundTrip
import LexicalModel.Trie

/-!
# Reading a trie back

A trie is written as one object, for a search that runs elsewhere.  What such a search finds in the
text is said here by a reader that knows nothing of how tries are written: it takes members by their
names, wherever they stand, and passes over those that it does not know.  Weights have 64 bits, and
so they are read as they were.

* `Trie.read?` : the trie that a text shows
* `Trie.isWhole_toJson` : all numbers of a written trie can be read back
* `Trie.read?_compact` : a written trie is read back
-/

namespace LexicalModel

open Json (Value Document)

namespace Trie

/-! ### The reader -/

/-- The member of an object that has the given name. -/
def member? (name : String) (members : List (Option String × Json.Node)) : Option Json.Node :=
  (members.find? fun m => m.1 = some name).map Prod.snd

/-- The text of a string. -/
def text? : Json.Node → Option String
  | .string s => s
  | _ => none

/-- A number of 64 bits. -/
def weight? : Json.Node → Option UInt64
  | .number (some (.int (.ofNat n))) => if n < UInt64.size then some (UInt64.ofNat n) else none
  | _ => none

/-- A string of one character. -/
def label? (s : String) : Option Char :=
  match s.toList with
  | [c] => some c
  | _ => none

/-- The items of an array, each of them read. -/
def items? {α : Type} (item? : Json.Node → Option α) : Json.Node → Option (List α)
  | .array ns none => ns.mapM item?
  | _ => none

/-- An entry. -/
def entry? : Json.Node → Option Entry
  | .object ms none => do
    let key ← (member? "key" ms).bind text?
    let weight ← (member? "weight" ms).bind weight?
    let content ← (member? "content" ms).bind text?
    return ⟨key, weight, content⟩
  | _ => none

mutual

/-- A node with all that is below it. -/
def node? : Json.Node → Option Node
  | .object ms none => do
    let weight ← (member? "weight" ms).bind weight?
    -- the kind tells which members a node has beside its weight
    let kind ← (member? "type" ms).bind text?
    if kind = "leaf" then
      return .leaf weight (← (member? "entries" ms).bind (items? entry?))
    else if kind = "internal" then
      let values ← (member? "values" ms).bind (items? fun n => (text? n).bind label?)
      return .internal weight values (← childrenIn? ms)
    else none
  | _ => none

/-- The children among the members of a node. -/
def childrenIn? : List (Option String × Json.Node) → Option (List (Char × Node))
  | [] => none
  | (name, n) :: rest => if name = some "children" then children? n else childrenIn? rest

/-- Children. -/
def children? : Json.Node → Option (List (Char × Node))
  | .object ms none => labelled? ms
  | _ => none

/-- Children under their labels. -/
def labelled? : List (Option String × Json.Node) → Option (List (Char × Node))
  | [] => some []
  | (name, n) :: rest => do
    let label ← name.bind label?
    let child ← node? n
    return (label, child) :: (← labelled? rest)

end

/-- A trie. -/
def trie? : Json.Node → Option Trie
  | .object ms none => do
    let totalWeight ← (member? "totalWeight" ms).bind weight?
    let root ← (member? "root" ms).bind node?
    return ⟨totalWeight, root⟩
  | _ => none

/-- The trie that a text shows, which has to be all of the text. -/
def read? (text : String) : Option Trie :=
  match Document.parse text with
  | ⟨root, none⟩ => trie? root
  | _ => none

/-! ### Written tries -/

theorem isWhole_weight (w : UInt64) : (Value.nat w.toNat).IsWhole := by
  intro n hn
  cases List.mem_singleton.1 hn
  have hlow : -(Nat.pow 2 63 : Int) ≤ 0 := by decide
  have hhigh : w.toNat ≤ Json.maxUnsigned := Nat.le_sub_one_of_lt w.toNat_lt
  exact ⟨Int.le_trans hlow (Int.natCast_nonneg _), Int.ofNat_le.2 hhigh⟩

theorem isWhole_string (s : String) : (Value.string s).IsWhole := fun _ h => nomatch h

theorem isWhole_entryJson (e : Entry) : (entryJson e).IsWhole := by
  simp [entryJson, Value.isWhole_object, isWhole_weight, isWhole_string]

mutual

/-- All numbers of a written node are weights. -/
theorem Node.isWhole_toJson (n : Node) : n.toJson.IsWhole := by
  cases n with
  | leaf w es =>
    simp [Node.toJson, Value.isWhole_object, Value.isWhole_array, isWhole_weight, isWhole_string,
      isWhole_entryJson]
  | internal w values children =>
    have hvalues : (Value.array (values.map fun c => .string (String.singleton c))).IsWhole := by
      simp [Value.isWhole_array, isWhole_string]
    have hchildren : (Value.object (childrenJson children)).IsWhole :=
      Value.isWhole_object.2 (isWhole_childrenJson children)
    refine Value.isWhole_object.2 ?_
    simp only [List.forall_mem_cons]
    exact ⟨isWhole_string _, isWhole_weight w, hvalues, hchildren, nofun⟩

theorem isWhole_childrenJson (children : List (Char × Node)) :
    ∀ m ∈ childrenJson children, m.2.IsWhole := by
  cases children with
  | nil => exact fun m hm => nomatch hm
  | cons p rest =>
    obtain ⟨c, child⟩ := p
    exact List.forall_mem_cons.2 ⟨child.isWhole_toJson, isWhole_childrenJson rest⟩

end

theorem isWhole_toJson (t : Trie) : t.toJson.IsWhole := by
  simp [toJson, Value.isWhole_object, isWhole_weight, t.root.isWhole_toJson]

/-! ### Reading them -/

@[simp] theorem weight?_nat (w : UInt64) : weight? (Value.nat w.toNat).toNode = some w := by
  have hlt : w.toNat < UInt64.size := w.toNat_lt
  have hread : weight? (Value.nat w.toNat).toNode =
      if w.toNat < UInt64.size then some (UInt64.ofNat w.toNat) else none := rfl
  rw [hread, if_pos hlt, UInt64.ofNat_toNat]

@[simp] theorem text?_string (s : String) : text? (Value.string s).toNode = some s := rfl

@[simp] theorem label?_singleton (c : Char) : label? (String.singleton c) = some c := by
  simp [label?]

/-- What was written of each item is read. -/
theorem items?_map {α : Type} {item? : Json.Node → Option α} {written : α → Value} {as : List α}
    (h : ∀ a ∈ as, item? (written a).toNode = some a) :
    items? item? (Value.array (as.map written)).toNode = some as := by
  rw [Value.toNode, Value.itemNodes_eq_map, items?]
  induction as with
  | nil => rfl
  | cons a as ih =>
    obtain ⟨hfirst, hrest⟩ := List.forall_mem_cons.1 h
    rw [List.map_cons, List.map_cons, List.mapM_cons, hfirst, ih hrest]
    rfl

theorem entry?_entryJson (e : Entry) : entry? (entryJson e).toNode = some e := by
  simp [entryJson, Value.toNode, Value.memberNodes, entry?, member?, text?]

mutual

/-- A written node is read back. -/
theorem node?_toJson (n : Node) : node? n.toJson.toNode = some n := by
  -- The members are at hand, so the reader computes down to what it reads of each.
  cases n with
  | leaf w es =>
    have hentries : items? entry? (Value.array (es.map entryJson)).toNode = some es :=
      items?_map fun e _ => entry?_entryJson e
    have hread : node? (Node.leaf w es).toJson.toNode =
        (weight? (Value.nat w.toNat).toNode).bind fun weight =>
          (items? entry? (Value.array (es.map entryJson)).toNode).bind fun entries =>
            some (.leaf weight entries) := rfl
    rw [hread, weight?_nat, hentries]
    rfl
  | internal w values children =>
    have hvalues : items? (fun n => (text? n).bind label?)
        (Value.array (values.map fun c => .string (String.singleton c))).toNode = some values :=
      items?_map fun c _ => label?_singleton c
    have hread : node? (Node.internal w values children).toJson.toNode =
        (weight? (Value.nat w.toNat).toNode).bind fun weight =>
          (items? (fun n => (text? n).bind label?)
            (Value.array (values.map fun c => .string (String.singleton c))).toNode).bind
            fun values => (labelled? (Value.memberNodes (childrenJson children))).bind
              fun children => some (.internal weight values children) := rfl
    rw [hread, weight?_nat, hvalues, labelled?_childrenJson children]
    rfl

theorem labelled?_childrenJson (children : List (Char × Node)) :
    labelled? (Value.memberNodes (childrenJson children)) = some children := by
  cases children with
  | nil => rfl
  | cons p rest =>
    obtain ⟨c, child⟩ := p
    simp [childrenJson, Value.memberNodes, labelled?, node?_toJson child,
      labelled?_childrenJson rest]

end

/-- **A written trie is read back.** -/
theorem read?_compact (t : Trie) : read? t.toJson.compact = some t := by
  have hparse : Document.parse t.toJson.compact = ⟨t.toJson.toNode, none⟩ :=
    Json.Form.compact.parse_write t.isWhole_toJson
  have hread : trie? t.toJson.toNode = (weight? (Value.nat t.totalWeight.toNat).toNode).bind
      fun totalWeight => (node? t.root.toJson.toNode).bind
        fun root => some ⟨totalWeight, root⟩ := rfl
  rw [read?, hparse]
  simp only [hread, weight?_nat, node?_toJson, Option.bind_some]

end Trie

end LexicalModel
