import LexicalModel.Text.Utf8

/-!
# Paths

A path is kept as it is spelled, because messages show it so.  The spelling is a list of bytes,
which need not be those of a text; messages show what is none with replacement characters.  What a
path denotes are its components: repeated separators, a trailing separator and a `.` that does not
lead are spelling only.

* `Path.ofText`, `Path.text` : the path that a text spells, and the text that a path is shown as
* `Path.components` : what a path denotes
* `Path.parent?`, `Path.fileName?`, `Path.join`, `Path.stripPrefix?` : taking paths apart and
  putting them together; the spelling of what remains is kept
* `Component.compare` : the order of components, and with it of paths
-/

namespace LexicalModel

/-- The byte that separates the pieces of a path. -/
@[match_pattern] abbrev slash : UInt8 := 0x2F

/-- The byte that `.` and `..` are made of. -/
@[match_pattern] abbrev dot : UInt8 := 0x2E

/-- A path as it is spelled. -/
structure Path where
  /-- The spelling. -/
  spelling : List UInt8
  deriving DecidableEq, Repr, Inhabited

/-- One step of a path. -/
inductive Component where
  /-- The root directory. -/
  | root
  /-- A leading `.`, the directory at hand. -/
  | current
  /-- `..`, one directory up. -/
  | parent
  /-- A named entry. -/
  | name (bytes : List UInt8)
  deriving DecidableEq, Repr, Inhabited

namespace Component

/-- The place of a component's kind in the order of components. -/
def rank : Component → Nat
  | root => 0
  | current => 1
  | parent => 2
  | name _ => 3

/-- The name of a named component. -/
def label : Component → List UInt8
  | name bytes => bytes
  | _ => []

/-- Components are ordered by kind, names among themselves by their bytes. -/
def compare (a b : Component) : Ordering :=
  compareLex (compareOn rank) (compareOn label) a b

instance : Ord Component := ⟨compare⟩

theorem eq_of_rank_of_label {a b : Component} (hr : a.rank = b.rank) (hl : a.label = b.label) :
    a = b := by
  cases a <;> cases b <;> simp_all [rank, label]

instance : Std.TransOrd Component :=
  inferInstanceAs (Std.TransCmp (compareLex (compareOn rank) (compareOn label)))

instance : Std.LawfulEqOrd Component where
  eq_of_compare {a b} h := by
    have h' : (compareOn rank a b).then (compareOn label a b) = .eq := h
    rw [Ordering.then_eq_eq] at h'
    exact eq_of_rank_of_label (Std.LawfulEqOrd.eq_of_compare h'.1)
      (Std.LawfulEqOrd.eq_of_compare h'.2)

/-- A component as it is spelled. -/
def spell : Component → List UInt8
  | root => [slash]
  | current => [dot]
  | parent => [dot, dot]
  | name bytes => bytes

/-- What a non-empty piece between separators denotes. -/
def ofPart (part : List UInt8) : Component :=
  if part = [dot] then current else if part = [dot, dot] then parent else name part

/-- What a non-empty piece of a text denotes. -/
def ofChars (part : List Char) : Component := ofPart (Text.Utf8.charBytes part)

end Component

/-- What a path starts with, apart from its pieces. -/
inductive Lead where
  /-- Nothing: a relative path. -/
  | relative
  /-- A separator: an absolute path. -/
  | root
  /-- A `.` as first piece of a relative path. -/
  | current
  deriving DecidableEq, Repr

/-- The component that a lead denotes. -/
def Lead.components : Lead → List Component
  | relative => []
  | root => [.root]
  | current => [.current]

namespace Path

/-- The path that a text spells. -/
def ofText (text : String) : Path := ⟨Text.Utf8.bytes text⟩

/-- The path as messages show it. -/
def text (p : Path) : String := Text.Utf8.lossy p.spelling

/-- A piece that denotes nothing: between two separators, or a `.`. -/
def isIdle (piece : List UInt8) : Bool := piece = [] || piece = [dot]

/-- The lead of a spelled path and the pieces between separators after it. -/
def split (bs : List UInt8) : Lead × List (List UInt8) :=
  match bs with
  | slash :: rest => (.root, rest.splitOnP (· = slash))
  | _ =>
    match bs.splitOnP (· = slash) with
    | [dot] :: rest => (.current, rest)
    | pieces => (.relative, pieces)

/-- The components of the pieces. -/
def piecesComponents (pieces : List (List UInt8)) : List Component :=
  (pieces.filter (fun p => !isIdle p)).map Component.ofPart

/-- What a path denotes. -/
def components (p : Path) : List Component :=
  (split p.spelling).1.components ++ piecesComponents (split p.spelling).2

/-- Pieces with separators between them. -/
def joinPieces : List (List UInt8) → List UInt8
  | [] => []
  | [piece] => piece
  | piece :: rest => piece ++ slash :: joinPieces rest

/-- The spelling of a lead and pieces. -/
def spell : Lead → List (List UInt8) → List UInt8
  | .relative, pieces => joinPieces pieces
  | .root, pieces => slash :: joinPieces pieces
  | .current, [] => [dot]
  | .current, pieces => dot :: slash :: joinPieces pieces

/-- Drops the idle pieces at the end. -/
def dropIdleEnd (pieces : List (List UInt8)) : List (List UInt8) :=
  (pieces.reverse.dropWhile isIdle).reverse

/-- The path without its last component; nothing for a root and for the empty path. -/
def parent? (p : Path) : Option Path :=
  let (lead, pieces) := split p.spelling
  match dropIdleEnd pieces with
  | [] => if lead = .current then some ⟨[]⟩ else none
  | kept => some ⟨spell lead (dropIdleEnd kept.dropLast)⟩

/-- The name of the last component, if that is a name. -/
def fileName? (p : Path) : Option (List UInt8) :=
  match p.components.getLast? with
  | some (.name bytes) => some bytes
  | _ => none

/-- The name of the last component, if that is a name and a text. -/
def fileText? (p : Path) : Option String := p.fileName?.bind Text.Utf8.text?

/-- The path starts at the root. -/
def isAbsolute (p : Path) : Bool := p.spelling.head? = some slash

/-- The path `q` seen from `p`: `q` itself when it is absolute. -/
def join (p q : Path) : Path :=
  if q.isAbsolute then q
  else if p.spelling = [] || p.spelling.getLast? = some slash then ⟨p.spelling ++ q.spelling⟩
  else ⟨p.spelling ++ slash :: q.spelling⟩

/-- The entry of a given name in the directory `p`. -/
def entry (p : Path) (name : String) : Path := p.join (ofText name)

/-- Both paths denote the same. -/
def same (p q : Path) : Bool := p.components = q.components

/-- `base` is an ancestor of `p` or the same. -/
def startsWith (p base : Path) : Bool := base.components.isPrefixOf p.components

/-- Drops the first `n` pieces that denote something, and idle ones before them. -/
def dropPieces : Nat → List (List UInt8) → List (List UInt8)
  | 0, pieces => pieces
  | _ + 1, [] => []
  | n + 1, piece :: rest => if isIdle piece then dropPieces (n + 1) rest else dropPieces n rest

/-- The rest of `p` below `base`, if `base` is an ancestor of it or the same. -/
def stripPrefix? (p base : Path) : Option Path :=
  if p.startsWith base then
    let (lead, pieces) := split p.spelling
    match base.components.length with
    | 0 => some ⟨spell lead (dropIdleEnd pieces)⟩
    | n + 1 =>
      let below := dropPieces (n + 1 - lead.components.length) pieces
      some ⟨joinPieces (dropIdleEnd (below.dropWhile isIdle))⟩
  else none

/-- The plain spelling of a list of components. -/
def ofComponents : List Component → Path
  | .root :: rest => ⟨slash :: joinPieces (rest.map Component.spell)⟩
  | cs => ⟨joinPieces (cs.map Component.spell)⟩

/-- `p` as shown to someone who stands at `base`. -/
def display (p : Path) (base : Option Path) : String :=
  match base.bind p.stripPrefix? with
  | some q => q.text
  | none => p.text

end Path

end LexicalModel
