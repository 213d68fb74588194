import LexicalModel.Text.Lowercase
import LexicalModel.WordList

/-!
# Tries

Words are looked up by what a user has typed so far, in lower case.  A trie splits its entries by
the characters of their keys until few enough are left, and knows at every node the weight of the
best entry below, so that the best matches are found first.

Entries whose key ends where a node splits go into a leaf of their own, under a label that stands
for the end of a key.

* `Trie.Node`, `Trie` : the trie
* `Trie.build` : the trie of some entries
* `Trie.ofWordLists`, `Trie.literal` : the trie of word lists, and how it is written
-/

namespace LexicalModel

/-- A word in a trie. -/
structure Entry where
  /-- What the word is looked up by. -/
  key : String
  /-- How often it was counted. -/
  weight : UInt64
  /-- The word. -/
  content : String
  deriving DecidableEq, Repr

/-- A trie, with the weight of all its entries together. -/
inductive Trie.Node where
  /-- Entries, best first, and the weight of the best. -/
  | leaf (weight : UInt64) (entries : List Entry)
  /-- Subtries under the next characters of the keys, the labels sorted by weight, and the weight of
  the best. -/
  | internal (weight : UInt64) (values : List Char) (children : List (Char × Trie.Node))
  deriving Repr

/-- A trie. -/
structure Trie where
  /-- The sum of the weights of all entries. -/
  totalWeight : UInt64
  /-- The node that holds all entries. -/
  root : Trie.Node
  deriving Repr

namespace Trie

/-- The label for entries whose key ends where a node splits. -/
def endOfKey : Char := '\ufdd0'

/-- A leaf of this many entries is not split. -/
def defaultMaxLeaf : Nat := 12

/-- The weight of a node. -/
def Node.weight : Node → UInt64
  | .leaf w _ => w
  | .internal w _ _ => w

/-- Entries are sorted by weight, the largest first, and then by key. -/
def entryLe (a b : Entry) : Bool :=
  b.weight < a.weight || (a.weight = b.weight && a.key ≤ b.key)

/-- A leaf with the given entries. -/
def leaf (entries : List Entry) : Node :=
  let sorted := entries.mergeSort entryLe
  .leaf ((sorted.head?.map Entry.weight).getD 0) sorted

/-- The label that an entry goes under at a node of the given depth. -/
def labelAt (depth : Nat) (e : Entry) : Char := (e.key.toList[depth]?).getD endOfKey

/-- The entries that go under a label. -/
def group (depth : Nat) (entries : List Entry) (c : Char) : List Entry :=
  entries.filter (fun e => labelAt depth e = c)

/-- Puts a label in its place among ascending labels, unless it is there. -/
def insertLabel (c : Char) : List Char → List Char
  | [] => [c]
  | d :: ds => if c < d then c :: d :: ds else if c = d then d :: ds else d :: insertLabel c ds

/-- The labels that entries go under, ascending. -/
def labels (depth : Nat) (entries : List Entry) : List Char :=
  (entries.map (labelAt depth)).foldr insertLabel []

/-- Labels are sorted by weight, the largest first, and then by code point. -/
def labelLe (a b : Char × UInt64) : Bool :=
  b.2 < a.2 || (a.2 = b.2 && a.1 ≤ b.1)

/-- An internal node with the given children. -/
def internal (children : List (Char × Node)) : Node :=
  let values := (children.map fun (c, child) => (c, child.weight)).mergeSort labelLe
  .internal ((values.head?.map Prod.snd).getD 0) (values.map Prod.fst) children

/-- The length of the longest key. -/
def longestKey (entries : List Entry) : Nat :=
  entries.foldr (fun e n => max e.key.toList.length n) 0

theorem mem_insertLabel {c d : Char} {ds : List Char} :
    d ∈ insertLabel c ds ↔ d = c ∨ d ∈ ds := by
  induction ds with
  | nil => simp [insertLabel]
  | cons e ds ih =>
    simp only [insertLabel]
    split
    · simp
    · split
      · next h => subst h; simp
      · simp only [List.mem_cons, ih]
        constructor
        · rintro (h | h | h) <;> simp [h]
        · rintro (h | h | h) <;> simp [h]

theorem mem_labels {depth : Nat} {entries : List Entry} {c : Char} :
    c ∈ labels depth entries ↔ ∃ e ∈ entries, labelAt depth e = c := by
  simp only [labels]
  induction entries with
  | nil => simp
  | cons e es ih => simp [mem_insertLabel, ih, eq_comm]

theorem length_le_longestKey {entries : List Entry} {e : Entry} (h : e ∈ entries) :
    e.key.toList.length ≤ longestKey entries := by
  induction entries with
  | nil => simp at h
  | cons d ds ih =>
    simp only [longestKey, List.foldr_cons]
    rcases List.mem_cons.1 h with rfl | h
    · exact Nat.le_max_left ..
    · exact Nat.le_trans (ih h) (Nat.le_max_right ..)

theorem longestKey_filter_le (p : Entry → Bool) (entries : List Entry) :
    longestKey (entries.filter p) ≤ longestKey entries := by
  induction entries with
  | nil => simp
  | cons d ds ih =>
    simp only [longestKey] at ih ⊢
    simp only [List.filter_cons, List.foldr_cons]
    split
    · simp only [List.foldr_cons]; omega
    · omega

theorem depth_lt_of_labelAt {depth : Nat} {e : Entry} (h : labelAt depth e ≠ endOfKey) :
    depth < e.key.toList.length := by
  rcases Nat.lt_or_ge depth e.key.toList.length with hlt | hge
  · exact hlt
  · exact absurd (by simp [labelAt, List.getElem?_eq_none hge]) h

/-- The entries under a label other than the end of keys are closer to the ends of their keys. -/
theorem longestKey_group_lt {depth : Nat} {entries : List Entry} {c : Char}
    (hc : c ∈ labels depth entries) (hne : c ≠ endOfKey) :
    longestKey (group depth entries c) - (depth + 1) < longestKey entries - depth := by
  obtain ⟨e, he, hl⟩ := mem_labels.1 hc
  have h1 := depth_lt_of_labelAt (hl ▸ hne)
  have h2 := length_le_longestKey he
  have h3 : longestKey (group depth entries c) ≤ longestKey entries := longestKey_filter_le _ _
  omega

/-- The node of some entries whose keys agree up to `depth`. -/
def build (maxLeaf depth : Nat) (entries : List Entry) : Node :=
  if entries.length ≤ maxLeaf then leaf entries
  else
    internal ((labels depth entries).attach.map fun ⟨c, hc⟩ =>
      (c, if h : c = endOfKey then leaf (group depth entries c)
        else build maxLeaf (depth + 1) (group depth entries c)))
termination_by longestKey entries - depth
decreasing_by exact longestKey_group_lt hc h

/-- The entry of a counted word, looked up by its lower-case form. -/
def entryOf (lower : String → String) (c : WordCount) : Entry := ⟨lower c.word, c.count, c.word⟩

/-- The trie of counted words. -/
def ofCounts (lower : String → String) (maxLeaf : Nat) (counts : List WordCount) : Trie :=
  let entries := counts.map (entryOf lower)
  ⟨entries.foldr (fun e n => e.weight + n) 0, build maxLeaf 0 entries⟩

/-- The trie of word lists. -/
def ofWordLists (lower : String → String) (maxLeaf : Nat) (lists : List SourceFile) :
    Result Trie := do
  let counted ← WordList.readAll lists
  return ofCounts lower maxLeaf (WordList.tally counted)

/-! ### Written form -/

open Json (Value)

/-- An entry as a record. -/
def entryJson (e : Entry) : Value :=
  .object [("key", .string e.key), ("weight", .nat e.weight.toNat), ("content", .string e.content)]

mutual

/-- A node as a record. -/
def Node.toJson : Node → Value
  | .leaf w entries =>
    .object [("type", .string "leaf"), ("weight", .nat w.toNat),
      ("entries", .array (entries.map entryJson))]
  | .internal w values children =>
    .object [("type", .string "internal"), ("weight", .nat w.toNat),
      ("values", .array (values.map fun c => .string (String.singleton c))),
      ("children", .object (childrenJson children))]

/-- Children as members. -/
def childrenJson : List (Char × Node) → List (String × Value)
  | [] => []
  | (c, child) :: rest => (String.singleton c, child.toJson) :: childrenJson rest

end

/-- A trie as a record. -/
def toJson (t : Trie) : Value :=
  .object [("totalWeight", .nat t.totalWeight.toNat), ("root", t.root.toJson)]

/-- The written trie of word lists, leaves of at most `maxLeaf` entries not being split; a single
entry always fits. -/
def literal (maxLeaf : Nat) (lists : List SourceFile) : Result String := do
  let t ← ofWordLists Text.lowercase (max maxLeaf 1) lists
  return t.toJson.compact

end Trie

end LexicalModel
