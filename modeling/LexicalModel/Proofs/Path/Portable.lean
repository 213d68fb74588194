import LexicalModel.Layout
import LexicalModel.Proofs.Path.Rewriting
import Mathlib.Data.List.Infix

/-!
# References below a directory

A reference is read below the directory that it is given for.  Only its parts count, and not what
separates them: a separator in front, which would make a path start at the root, is one of those
that do not count.  The parts of two references one after the other are those of the first and then
those of the second, so reading them at once is reading the second below what the first denotes.
With what a single part denotes, this says how every reference is read.

A reference leaves its directory only by going up more often than it has gone down.  As long as it
does not, the stack of the normal form holds the normal form of the directory, and above it as many
names as the reference has gone down.

* `Reference.Respaced` : one change of the separators
* `Reference.level`, `Reference.StaysBelow` : how far parts go down
* `Path.exists_foldl_pushNormal` : the stack while such parts are read
* `Path.ReadsBelow`, `Path.references_read_below` : how references are read
-/

namespace LexicalModel

open Relation (EqvGen)

namespace Reference

/-! ### Separators -/

/-- A separator is replaced or put beside another, or in front or at the end. -/
inductive Respaced : List Char → List Char → Prop
  /-- One separator in place of another. -/
  | swap (front : List Char) {c d : Char} (back : List Char) :
    isSeparator c = true → isSeparator d = true → Respaced (front ++ c :: back) (front ++ d :: back)
  /-- One separator more where there is one. -/
  | double (front : List Char) {c d : Char} (back : List Char) :
    isSeparator c = true → isSeparator d = true →
    Respaced (front ++ c :: back) (front ++ c :: d :: back)
  /-- A separator in front. -/
  | leading {c : Char} (cs : List Char) : isSeparator c = true → Respaced cs (c :: cs)
  /-- A separator at the end. -/
  | trailing (cs : List Char) {c : Char} : isSeparator c = true → Respaced cs (cs ++ [c])

theorem Respaced.partsOf_eq {cs ds : List Char} (h : Respaced cs ds) : partsOf cs = partsOf ds := by
  cases h with
  | swap front back hc hd => rw [partsOf_append_cons _ hc, partsOf_append_cons _ hd]
  | double front back hc hd =>
    rw [partsOf_append_cons _ hc, partsOf_append_cons _ hc, partsOf_cons hd]
  | leading _ hc => rw [partsOf_cons hc]
  | trailing _ hc => rw [partsOf_append_cons _ hc, partsOf_nil, List.append_nil]

theorem parts_eq_of_respaced {r s : String} (h : EqvGen Respaced r.toList s.toList) :
    parts r = parts s := by
  have hparts : ∀ cs ds, EqvGen Respaced cs ds → partsOf cs = partsOf ds := by
    intro cs ds h
    induction h with
    | rel _ _ h => exact h.partsOf_eq
    | refl _ => rfl
    | symm _ _ _ ih => exact ih.symm
    | trans _ _ _ _ _ ih₁ ih₂ => exact ih₁.trans ih₂
  exact hparts _ _ h

theorem parts_append (r s : String) {c : Char} (hc : isSeparator c = true) :
    parts (r ++ String.singleton c ++ s) = parts r ++ parts s := by
  have htext : (r ++ String.singleton c ++ s).toList = r.toList ++ c :: s.toList := by simp
  rw [parts_eq, htext, partsOf_append_cons _ hc, parts_eq, parts_eq]

/-! ### Going down and up -/

/-- How far a part goes down. -/
def descent (part : List Char) : Int :=
  if part = ['.'] then 0 else if part = ['.', '.'] then -1 else 1

/-- How far parts go down together. -/
def level : List (List Char) → Int
  | [] => 0
  | part :: rest => descent part + level rest

/-- Read from the left, the parts never go up more often than they have gone down. -/
def StaysBelow (ps : List (List Char)) : Prop := ∀ front, front <+: ps → 0 ≤ level front

instance : DecidablePred StaysBelow := fun ps =>
  decidable_of_iff (∀ front ∈ ps.inits, 0 ≤ level front) (by simp [StaysBelow])

theorem level_nonneg_of_cons {n : Int} {part : List Char} {rest : List (List Char)}
    (h : ∀ front, front <+: part :: rest → 0 ≤ n + level front) :
    0 ≤ n + descent part ∧ ∀ front, front <+: rest → 0 ≤ n + descent part + level front := by
  have hnext : ∀ front, front <+: rest → 0 ≤ n + descent part + level front := by
    intro front hfront
    have hpart := h (part :: front) (List.cons_prefix_cons.2 ⟨rfl, hfront⟩)
    rw [level] at hpart
    omega
  refine ⟨?_, hnext⟩
  simpa [level] using hnext [] List.nil_prefix

end Reference

namespace Path

open Reference (IsPart Respaced StaysBelow descent isSeparator level parts)

/-! ### The stack of the normal form -/

/-- **Parts that stay below leave the stack as it is under the names that they have put on it.** -/
theorem exists_foldl_pushNormal {ps : List (List Char)} {names : List (List UInt8)}
    (h : ∀ front, front <+: ps → 0 ≤ (names.length : Int) + level front) (acc : List Component) :
    ∃ names' : List (List UInt8),
      (ps.map Component.ofChars).foldl pushNormal (names.map .name ++ acc) =
        names'.map .name ++ acc := by
  -- the count is the number of names above `acc`
  induction ps generalizing names with
  | nil => exact ⟨names, rfl⟩
  | cons part rest ih =>
    obtain ⟨hpart, hrest⟩ := Reference.level_nonneg_of_cons h
    rw [List.map_cons, List.foldl_cons, ofChars_eq]
    unfold descent at hpart hrest
    split_ifs at hpart hrest ⊢ with hdot hdots
    · exact ih (by simpa using hrest)
    · cases names with
      | nil => simp at hpart
      | cons n names =>
        refine @ih names fun front hfront => ?_
        have hlevel := hrest front hfront
        rw [List.length_cons] at hlevel
        omega
    · refine @ih (Text.Utf8.charBytes part :: names) fun front hfront => ?_
      have hlevel := hrest front hfront
      rw [List.length_cons]
      omega

theorem normalComponents_prefix_of_staysBelow (front : List Component) {ps : List (List Char)}
    (h : StaysBelow ps) :
    normalComponents front <+: normalComponents (front ++ ps.map Component.ofChars) := by
  have hlevel : ∀ taken, taken <+: ps →
      0 ≤ (([] : List (List UInt8)).length : Int) + level taken := by
    intro taken htaken
    simpa using h taken htaken
  obtain ⟨names, hnames⟩ := exists_foldl_pushNormal hlevel (front.foldl pushNormal [])
  rw [List.map_nil, List.nil_append] at hnames
  rw [normalComponents, normalComponents, List.foldl_append, hnames, List.reverse_append]
  exact List.prefix_append _ _

/-! ### Reading references -/

theorem root_not_mem_map_ofChars (ps : List (List Char)) : .root ∉ ps.map Component.ofChars := by
  have hparts : ps.map Component.ofChars = (ps.map Text.Utf8.charBytes).map Component.ofPart :=
    List.map_map.symm
  rw [hparts]
  exact root_not_mem_map_ofPart _

theorem resolve_of_parts_eq {r s : String} (h : parts r = parts s) (base : Path) :
    base.resolve r = base.resolve s := by
  rw [resolve, resolve, h]

theorem components_of_isPart {part : String} (h : IsPart part.toList) :
    (Path.ofText part).components = [Component.ofChars part.toList] := by
  obtain ⟨hnil, hslash⟩ := charBytes_of_isPart h
  rw [Component.ofChars, components_eq, ofText, Text.Utf8.bytes]
  generalize Text.Utf8.charBytes part.toList = bs at hnil hslash ⊢
  by_cases hdot : bs = [dot]
  · rw [hdot]
    rfl
  · by_cases hdots : bs = [dot, dot]
    · rw [hdots]
      rfl
    · have hname : IsName bs := ⟨hnil, hslash, hdot, hdots⟩
      rw [hname.ofPart_eq, hname.spelled_eq]

/-- **A reference of one part** is joined to its directory as a path is. -/
theorem resolve_of_isPart (base : Path) {part : String} (h : IsPart part.toList) :
    base.resolve part = (base.join (.ofText part)).normalize := by
  have hrelative : (Path.ofText part).isAbsolute = false := by
    rw [Bool.eq_false_iff, ne_eq, isAbsolute_iff, components_of_isPart h]
    exact root_not_mem_map_ofPart [Text.Utf8.charBytes part.toList]
  rw [normalize, normalComponents_join hrelative, components_of_isPart h, resolve,
    Reference.parts_eq, Reference.partsOf_of_isPart h, List.map_singleton]

/-- **Two references one after the other.** -/
theorem resolve_append (base : Path) (r s : String) {c : Char} (hc : isSeparator c = true) :
    base.resolve (r ++ String.singleton c ++ s) = (base.resolve r).resolve s := by
  calc base.resolve (r ++ String.singleton c ++ s)
      = ofComponents (normalComponents (base.components ++
          (parts (r ++ String.singleton c ++ s)).map Component.ofChars)) := rfl
    _ = ofComponents (normalComponents (base.components ++ (parts r).map Component.ofChars ++
          (parts s).map Component.ofChars)) := by
        rw [Reference.parts_append r s hc, List.map_append, List.append_assoc]
    _ = ofComponents (normalComponents ((base.resolve r).components ++
          (parts s).map Component.ofChars)) := by
        rw [components_resolve, normalComponents_normalComponents_append]
    _ = (base.resolve r).resolve s := rfl

/-- What a reference denotes starts at the root just where its directory does. -/
theorem isAbsolute_resolve (base : Path) (reference : String) :
    (base.resolve reference).isAbsolute = base.isAbsolute := by
  rw [Bool.eq_iff_iff, isAbsolute_iff, isAbsolute_iff, components_resolve,
    root_mem_normalComponents_iff, List.mem_append,
    or_iff_left (root_not_mem_map_ofChars (parts reference))]

theorem startsWith_resolve (base : Path) {reference : String} (h : StaysBelow (parts reference)) :
    (base.resolve reference).startsWith base.normalize = true := by
  rw [startsWith, List.isPrefixOf_iff_prefix, components_normalize, components_resolve]
  exact normalComponents_prefix_of_staysBelow base.components h

/-- References are read below a directory. -/
structure ReadsBelow (base : Path) (denote : String → Path) : Prop where
  /-- A reference of one part is that part joined to the directory. -/
  single : ∀ part : String, IsPart part.toList → denote part = (base.join (.ofText part)).normalize
  /-- Two references one after the other are the second below what the first denotes. -/
  composes : ∀ (r s : String) (c : Char), isSeparator c = true →
    denote (r ++ String.singleton c ++ s) = (denote r).resolve s
  /-- However the separators are changed, the same is denoted. -/
  respaced : ∀ r s : String, EqvGen Respaced r.toList s.toList → denote r = denote s
  /-- What is denoted starts at the root just where the directory does. -/
  rooted : ∀ r : String, (denote r).isAbsolute = base.isAbsolute
  /-- A reference that stays below its directory denotes something in it. -/
  contained : ∀ r : String, StaysBelow (parts r) → (denote r).startsWith base.normalize = true

theorem readsBelow_resolve (base : Path) : ReadsBelow base base.resolve where
  single _ h := resolve_of_isPart base h
  composes r s _ hc := resolve_append base r s hc
  respaced _ _ h := resolve_of_parts_eq (Reference.parts_eq_of_respaced h) base
  rooted := isAbsolute_resolve base
  contained _ := startsWith_resolve base

/-- **References are read below their directory**, whatever that is; and those in the sources of a
model below the directory of the sources. -/
theorem references_read_below :
    (∀ base : Path, ReadsBelow base base.resolve) ∧
    ∀ l : Layout, ReadsBelow l.sourceDir l.sourceFile :=
  ⟨readsBelow_resolve, fun l => readsBelow_resolve l.sourceDir⟩

/-- A reference that looks absolute and goes up and down, below a relative directory that does so
itself; one after it that leaves the directory; and a reference in the sources of a model. -/
theorem references_read_below_detours :
    StaysBelow (parts "/a\\..//b") ∧
    ((Path.ofText "./../m/x/..").resolve "/a\\..//b").startsWith
      (Path.ofText "./../m/x/..").normalize = true ∧
    (Path.ofText "./../m/x/..").resolve "/a\\..//b\\../../../d" =
      ((Path.ofText "./../m/x/..").resolve "/a\\..//b").resolve "../../../d" ∧
    (Layout.mk (.ofText "/m/build") (.ofText "/m")).sourceFile "\\a//b" =
      (Layout.mk (.ofText "/m/build") (.ofText "/m")).sourceFile "a/b" := by
  obtain ⟨hresolve, hsources⟩ := references_read_below
  have hbelow : StaysBelow (parts "/a\\..//b") := by decide
  have hrespaced : EqvGen Respaced "\\a//b".toList "a/b".toList :=
    .trans _ "a//b".toList _ (.symm _ _ (.rel _ _ (.leading _ rfl)))
      (.symm _ _ (.rel _ _ (.double ['a'] ['b'] rfl rfl)))
  refine ⟨hbelow, (hresolve _).contained _ hbelow, ?_, (hsources _).respaced _ _ hrespaced⟩
  exact (hresolve _).composes "/a\\..//b" "../../../d" '\\' rfl

end Path

end LexicalModel
