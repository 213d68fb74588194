import LexicalModel.Path.Reference
import LexicalModel.Proofs.Path.Components

/-!
# Normal forms of paths

The normal form of a path is made by going through its components with a stack.  At every moment the
stack holds names, and below them the root or a run of `..`; so the normal form is spelled in one
way only, and what a path says after its last `..` is the end of its normal form.

* `Path.IsNormal` : the shape of a normal form
* `Path.isNormal_normalComponents` : every normal form has this shape
* `Path.components_normalize` : the spelled normal form denotes just the computed components
* `Path.normalComponents_append` : what follows the last `..` stays
-/

namespace LexicalModel

/-- The name of a component that has one. -/
def Component.name? : Component → Option (List UInt8)
  | name bytes => some bytes
  | _ => none

namespace Path

/-- The names among components. -/
def namesOf (cs : List Component) : List (List UInt8) := cs.filterMap Component.name?

theorem namesOf_cons (c : Component) (cs : List Component) :
    namesOf (c :: cs) = c.name?.toList ++ namesOf cs := by
  cases c <;> rfl

@[simp] theorem namesOf_append (cs ds : List Component) :
    namesOf (cs ++ ds) = namesOf cs ++ namesOf ds :=
  List.filterMap_append

/-- A component that names an entry of a directory. -/
def IsEntry (c : Component) : Prop := ∃ bytes, c = .name bytes ∧ IsName bytes

/-- A component that leads from a directory to another: `..`, or the name of an entry. -/
def IsStep (c : Component) : Prop := c = .parent ∨ IsEntry c

/-! ### What a path denotes are steps -/

theorem isStep_ofPart {piece : List UInt8} (hslash : slash ∉ piece) (hidle : isIdle piece = false) :
    IsStep (Component.ofPart piece) := by
  simp only [isIdle, Bool.or_eq_false_iff, decide_eq_false_iff_not] at hidle
  by_cases hup : piece = [dot, dot]
  · left
    simp [Component.ofPart, hup]
  · right
    have hname : IsName piece := ⟨hidle.1, hslash, hidle.2, hup⟩
    exact ⟨piece, hname.ofPart_eq, hname⟩

theorem isStep_of_mem_piecesComponents {pieces : List (List UInt8)}
    (h : ∀ piece ∈ pieces, slash ∉ piece) {c : Component} (hc : c ∈ piecesComponents pieces) :
    IsStep c := by
  obtain ⟨piece, hpiece, rfl⟩ := List.mem_map.1 hc
  obtain ⟨hmem, hidle⟩ := List.mem_filter.1 hpiece
  exact isStep_ofPart (h piece hmem) (by simpa using hidle)

/-- A path denotes its lead, followed by steps. -/
theorem exists_components_eq (p : Path) :
    ∃ (lead : Lead) (steps : List Component),
      p.components = lead.components ++ steps ∧ ∀ c ∈ steps, IsStep c := by
  refine ⟨_, _, rfl, fun c hc => ?_⟩
  by_cases hempty : p.spelling = []
  · rw [hempty] at hc
    cases hc
  · exact isStep_of_mem_piecesComponents (tellable_split hempty).1 hc

/-- The name of a file is that of an entry. -/
theorem isName_of_fileName? {p : Path} {n : List UInt8} (h : p.fileName? = some n) :
    IsName n := by
  obtain ⟨cs, hcs⟩ := fileName?_eq_some_iff.1 h
  obtain ⟨lead, steps, hp, hsteps⟩ := exists_components_eq p
  have hmem : Component.name n ∈ lead.components ++ steps := by
    rw [← hp, hcs]
    simp
  rcases List.mem_append.1 hmem with hlead | hstep
  · cases lead <;> simp [Lead.components] at hlead
  · rcases hsteps _ hstep with hparent | ⟨m, hm, hname⟩
    · cases hparent
    · cases hm
      exact hname

/-- The name of an entry is a path of one component, which is that name. -/
theorem components_eq_name_iff {n : List UInt8} :
    (Path.mk n).components = [.name n] ↔ IsName n := by
  constructor
  · intro h
    exact isName_of_fileName? (fileName?_eq_some_iff.2 ⟨[], h⟩)
  · exact IsName.spelled_eq

/-! ### The shape of a normal form -/

/-- Names of entries below the root, or below a run of `..`. -/
def IsNormal (cs : List Component) : Prop :=
  ∃ front names, cs = front ++ names ∧ (front = [.root] ∨ ∀ c ∈ front, c = .parent) ∧
    ∀ c ∈ names, IsEntry c

theorem isNormal_nil : IsNormal [] := ⟨[], [], rfl, .inr (by simp), by simp⟩

theorem isNormal_root : IsNormal [.root] := ⟨[.root], [], rfl, .inl rfl, by simp⟩

theorem pushNormal_parent {acc : List Component} (h : ∀ c ∈ acc, c = .parent) :
    pushNormal acc .parent = .parent :: acc := by
  cases acc with
  | nil => rfl
  | cons c acc =>
    rw [h c List.mem_cons_self]
    rfl

/-- `..` takes back the last name of a normal form; it stays where there is no name, and is gone
under the root. -/
theorem isNormal_pushNormal_parent {acc : List Component} (h : IsNormal acc.reverse) :
    IsNormal (pushNormal acc .parent).reverse := by
  obtain ⟨front, names, hacc, hfront, hnames⟩ := h
  rcases List.eq_nil_or_concat names with rfl | ⟨rest, last, rfl⟩
  · rw [List.append_nil, List.reverse_eq_iff] at hacc
    rcases hfront with rfl | hfront
    · rw [hacc]
      exact isNormal_root
    · have hparents : ∀ c ∈ acc, c = .parent := by
        intro c hc
        rw [hacc, List.mem_reverse] at hc
        exact hfront c hc
      rw [pushNormal_parent hparents]
      refine ⟨(.parent :: acc).reverse, [], by simp, .inr fun c hc => ?_, by simp⟩
      rcases List.mem_cons.1 (List.mem_reverse.1 hc) with rfl | hc
      · rfl
      · exact hparents c hc
  · obtain ⟨s, rfl, -⟩ := hnames last (by simp)
    rw [List.concat_eq_append, ← List.append_assoc, List.reverse_eq_iff,
      List.reverse_append, List.reverse_singleton, List.singleton_append] at hacc
    rw [hacc]
    exact ⟨front, rest, List.reverse_reverse _, hfront, fun d hd => hnames d (by simp [hd])⟩

/-- A step is added to a normal form. -/
theorem isNormal_pushNormal {acc : List Component} (h : IsNormal acc.reverse) {c : Component}
    (hc : IsStep c) : IsNormal (pushNormal acc c).reverse := by
  rcases hc with rfl | ⟨s, rfl, hs⟩
  · exact isNormal_pushNormal_parent h
  · obtain ⟨front, names, hacc, hfront, hnames⟩ := h
    refine ⟨front, names ++ [.name s], ?_, hfront, ?_⟩
    · change (Component.name s :: acc).reverse = _
      rw [List.reverse_cons, hacc, List.append_assoc]
    · intro d hd
      rcases List.mem_append.1 hd with hd | hd
      · exact hnames d hd
      · exact ⟨s, List.mem_singleton.1 hd, hs⟩

theorem isNormal_foldl_pushNormal {acc steps : List Component} (hacc : IsNormal acc.reverse)
    (hsteps : ∀ c ∈ steps, IsStep c) : IsNormal (steps.foldl pushNormal acc).reverse := by
  induction steps generalizing acc with
  | nil => exact hacc
  | cons c steps ih =>
    refine ih ?_ fun d hd => hsteps d (List.mem_cons_of_mem _ hd)
    exact isNormal_pushNormal hacc (hsteps c List.mem_cons_self)

/-- **A normal form consists of names, below the root or a run of `..`.** -/
theorem isNormal_normalComponents (p : Path) : IsNormal (normalComponents p.components) := by
  obtain ⟨lead, steps, hp, hsteps⟩ := exists_components_eq p
  rw [normalComponents, hp, List.foldl_append]
  refine isNormal_foldl_pushNormal ?_ hsteps
  cases lead with
  | relative => exact isNormal_nil
  | root => exact isNormal_root
  | current => exact isNormal_nil

/-! ### Spelling a normal form -/

theorem spell_of_isStep {c : Component} (h : IsStep c) :
    slash ∉ c.spell ∧ isIdle c.spell = false ∧ Component.ofPart c.spell = c := by
  rcases h with rfl | ⟨bytes, rfl, hname⟩
  · exact ⟨by decide, rfl, rfl⟩
  · exact ⟨hname.2.1, by simp [Component.spell, isIdle, hname.1, hname.2.2.1], hname.ofPart_eq⟩

theorem piecesComponents_map_spell {steps : List Component} (h : ∀ c ∈ steps, IsStep c) :
    piecesComponents (steps.map Component.spell) = steps := by
  induction steps with
  | nil => rfl
  | cons c steps ih =>
    obtain ⟨-, hidle, hpart⟩ := spell_of_isStep (h c List.mem_cons_self)
    rw [List.map_cons, ← List.singleton_append, piecesComponents_append,
      piecesComponents_singleton hidle, hpart, ih fun d hd => h d (List.mem_cons_of_mem _ hd),
      List.singleton_append]

theorem tellable_map_spell (lead : Lead) {steps : List Component} (h : ∀ c ∈ steps, IsStep c) :
    Tellable lead (steps.map Component.spell) := by
  refine ⟨fun piece hpiece => ?_, fun _ first hfirst => ?_⟩
  · obtain ⟨c, hc, rfl⟩ := List.mem_map.1 hpiece
    exact (spell_of_isStep (h c hc)).1
  · obtain ⟨c, hc, rfl⟩ := List.mem_map.1 (List.mem_of_mem_head? hfirst)
    have hidle := (spell_of_isStep (h c hc)).2.1
    simpa [isIdle] using hidle

theorem ofComponents_of_isStep {steps : List Component} (h : ∀ c ∈ steps, IsStep c) :
    ofComponents steps = ⟨spell .relative (steps.map Component.spell)⟩ := by
  cases steps with
  | nil => rfl
  | cons c steps =>
    rcases h c List.mem_cons_self with rfl | ⟨s, rfl, -⟩ <;> rfl

theorem IsNormal.root_or_steps {cs : List Component} (h : IsNormal cs) :
    ∃ steps, (cs = .root :: steps ∨ cs = steps) ∧ ∀ c ∈ steps, IsStep c := by
  obtain ⟨front, names, rfl, hfront, hnames⟩ := h
  rcases hfront with rfl | hfront
  · exact ⟨names, .inl rfl, fun c hc => .inr (hnames c hc)⟩
  · refine ⟨front ++ names, .inr rfl, fun c hc => ?_⟩
    rcases List.mem_append.1 hc with hc | hc
    · exact .inl (hfront c hc)
    · exact .inr (hnames c hc)

/-- The plain spelling of a normal form denotes it. -/
theorem components_ofComponents {cs : List Component} (h : IsNormal cs) :
    (ofComponents cs).components = cs := by
  obtain ⟨steps, rfl | rfl, hsteps⟩ := h.root_or_steps
  · have hspell : ofComponents (.root :: steps) =
        ⟨spell .root (steps.map Component.spell)⟩ := rfl
    rw [hspell, components_eq, spelled_spell (tellable_map_spell _ hsteps),
      piecesComponents_map_spell hsteps]
    rfl
  · rw [ofComponents_of_isStep hsteps, components_eq,
      spelled_spell (tellable_map_spell _ hsteps), piecesComponents_map_spell hsteps]
    rfl

theorem components_normalize (p : Path) :
    p.normalize.components = normalComponents p.components :=
  components_ofComponents (isNormal_normalComponents p)

/-! ### After the last `..` -/

theorem foldl_pushNormal_of_not_mem {acc tail : List Component} (h : Component.parent ∉ tail) :
    tail.foldl pushNormal acc = (tail.filter (· ≠ .current)).reverse ++ acc := by
  induction tail generalizing acc with
  | nil => rfl
  | cons c tail ih =>
    rw [List.mem_cons, not_or] at h
    rw [List.foldl_cons, ih h.2]
    cases c with
    | parent => exact absurd rfl h.1
    | root => simp [pushNormal]
    | current => simp [pushNormal]
    | name s => simp [pushNormal]

/-- **What follows the last `..` stays**, up to a leading `.`. -/
theorem normalComponents_append (front : List Component) {tail : List Component}
    (h : Component.parent ∉ tail) :
    normalComponents (front ++ tail) = normalComponents front ++ tail.filter (· ≠ .current) := by
  rw [normalComponents, List.foldl_append, foldl_pushNormal_of_not_mem h, List.reverse_append,
    List.reverse_reverse, normalComponents]

theorem namesOf_filter_current (cs : List Component) :
    namesOf (cs.filter (· ≠ .current)) = namesOf cs := by
  induction cs with
  | nil => rfl
  | cons c cs ih =>
    by_cases hc : c = .current
    · rw [List.filter_cons_of_neg (by simp [hc]), ih, hc, namesOf_cons]
      rfl
    · rw [List.filter_cons_of_pos (by simp [hc]), namesOf_cons, ih, namesOf_cons]

theorem namesOf_normalComponents_append (front : List Component) {tail : List Component}
    (h : Component.parent ∉ tail) :
    namesOf (normalComponents (front ++ tail)) =
      namesOf (normalComponents front) ++ namesOf tail := by
  rw [normalComponents_append front h, namesOf_append, namesOf_filter_current]

/-- A path without `..` has the names of its normal form. -/
theorem namesOf_normalComponents {cs : List Component} (h : Component.parent ∉ cs) :
    namesOf (normalComponents cs) = namesOf cs :=
  namesOf_normalComponents_append [] h

theorem map_name_namesOf {cs : List Component} (h : ∀ c ∈ cs, IsEntry c) :
    (namesOf cs).map Component.name = cs := by
  induction cs with
  | nil => rfl
  | cons c cs ih =>
    obtain ⟨s, rfl, -⟩ := h c List.mem_cons_self
    have hrest := ih fun d hd => h d (List.mem_cons_of_mem _ hd)
    change Component.name s :: (namesOf cs).map Component.name = _
    rw [hrest]

/-- Names at the end of a normal form are its last components. -/
theorem IsNormal.eq_append_of_namesOf {cs : List Component} (h : IsNormal cs)
    {before last : List (List UInt8)} (hnames : namesOf cs = before ++ last) :
    ∃ front, cs = front ++ last.map Component.name := by
  obtain ⟨front, names, rfl, hfront, hentries⟩ := h
  have hempty : namesOf front = [] := by
    rcases hfront with rfl | hfront
    · rfl
    · refine List.filterMap_eq_nil_iff.2 fun c hc => ?_
      rw [hfront c hc]
      rfl
  rw [namesOf_append, hempty, List.nil_append] at hnames
  refine ⟨front ++ before.map Component.name, ?_⟩
  rw [← map_name_namesOf hentries, hnames, List.map_append, List.append_assoc]

end Path

end LexicalModel
