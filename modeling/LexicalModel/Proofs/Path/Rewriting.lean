import LexicalModel.Proofs.Path.Reference
import Mathlib.Logic.Relation

/-!
# Normal forms by rewriting

Three rules make the components of a path simpler: a `.` goes, a name goes together with the `..`
after it, and a `..` directly under the root goes.  The rules may be applied in any order and at any
place.  Each application makes the path shorter, so there is an end to it, and none of them changes
the normal form that the stack computes; so every order ends in that normal form.

* `Path.Simplifies` : one application of a rule
* `Path.IsSimple` : no rule applies
* `Path.Simplifies.normalComponents_eq` : a rule keeps the normal form
* `Path.normalComponents_of_isSimple` : where no rule applies, the normal form is reached
* `Path.normalize_unique_normal_form` : every order of application ends in the normal form
-/

namespace LexicalModel

namespace Path

open Relation (ReflTransGen)

/-- One rule is applied at one place. -/
inductive Simplifies : List Component → List Component → Prop
  /-- A `.` goes. -/
  | dot (front back : List Component) : Simplifies (front ++ .current :: back) (front ++ back)
  /-- A name and the `..` after it go. -/
  | detour (front : List Component) (n : List UInt8) (back : List Component) :
    Simplifies (front ++ .name n :: .parent :: back) (front ++ back)
  /-- A `..` directly under the root goes. -/
  | overRoot (front back : List Component) :
    Simplifies (front ++ .root :: .parent :: back) (front ++ .root :: back)

/-- No rule applies. -/
def IsSimple (cs : List Component) : Prop := ∀ ds, ¬Simplifies cs ds

/-! ### There is an end to rewriting -/

theorem Simplifies.length_lt {cs ds : List Component} (h : Simplifies cs ds) :
    ds.length < cs.length := by
  cases h <;> simp only [List.length_append, List.length_cons] <;> omega

theorem wellFounded_simplifies : WellFounded fun ds cs => Simplifies cs ds :=
  Subrelation.wf (fun h => h.length_lt) (measure List.length).wf

/-- Applying rules as long as one applies ends where none does. -/
theorem exists_isSimple (cs : List Component) :
    ∃ ds, ReflTransGen Simplifies cs ds ∧ IsSimple ds := by
  induction cs using wellFounded_simplifies.induction with
  | _ cs ih =>
    by_cases hsimple : IsSimple cs
    · exact ⟨cs, .refl, hsimple⟩
    · obtain ⟨ds, hstep⟩ : ∃ ds, Simplifies cs ds := by
        simpa [IsSimple] using hsimple
      obtain ⟨es, hreach, hes⟩ := ih ds hstep
      exact ⟨es, .head hstep hreach, hes⟩

/-! ### The rules keep the normal form -/

/-- The stack is the same before and after the components that a rule takes away. -/
theorem Simplifies.foldl_eq {cs ds : List Component} (h : Simplifies cs ds) (acc : List Component) :
    ds.foldl pushNormal acc = cs.foldl pushNormal acc := by
  cases h with
  | dot front back => rw [List.foldl_append, List.foldl_append]; rfl
  | detour front n back => rw [List.foldl_append, List.foldl_append]; rfl
  | overRoot front back => rw [List.foldl_append, List.foldl_append]; rfl

theorem Simplifies.normalComponents_eq {cs ds : List Component} (h : Simplifies cs ds) :
    normalComponents ds = normalComponents cs := by
  rw [normalComponents, h.foldl_eq, normalComponents]

theorem normalComponents_of_reach {cs ds : List Component} (h : ReflTransGen Simplifies cs ds) :
    normalComponents ds = normalComponents cs := by
  induction h with
  | refl => rfl
  | tail _ hstep ih => rw [hstep.normalComponents_eq, ih]

/-! ### Where no rule applies -/

/-- A component that no rule takes away after what is on the stack is added to it. -/
theorem pushNormal_of_isSimple {acc : List Component} {c : Component} {back : List Component}
    (h : IsSimple (acc.reverse ++ c :: back)) : pushNormal acc c = c :: acc := by
  cases c with
  | root => rfl
  | name n => rfl
  | current => exact absurd (.dot acc.reverse back) (h _)
  | parent =>
    cases acc with
    | nil => rfl
    | cons d acc =>
      rw [List.reverse_cons, List.append_assoc, List.singleton_append] at h
      cases d with
      | root => exact absurd (.overRoot acc.reverse back) (h _)
      | current => exact absurd (.dot acc.reverse (.parent :: back)) (h _)
      | parent => rfl
      | name n => exact absurd (.detour acc.reverse n back) (h _)

theorem foldl_pushNormal_of_isSimple {acc cs : List Component} (h : IsSimple (acc.reverse ++ cs)) :
    cs.foldl pushNormal acc = cs.reverse ++ acc := by
  -- the stack with the components still to come is always the whole path
  induction cs generalizing acc with
  | nil => rfl
  | cons c cs ih =>
    have hnext : IsSimple ((c :: acc).reverse ++ cs) := by
      rw [List.reverse_cons, List.append_assoc, List.singleton_append]
      exact h
    rw [List.foldl_cons, pushNormal_of_isSimple h, ih hnext, List.reverse_cons, List.append_assoc,
      List.singleton_append]

/-- Where no rule applies, the components are their own normal form. -/
theorem normalComponents_of_isSimple {cs : List Component} (h : IsSimple cs) :
    normalComponents cs = cs := by
  have hstack : cs.foldl pushNormal [] = cs.reverse ++ [] := foldl_pushNormal_of_isSimple h
  rw [normalComponents, hstack, List.append_nil, List.reverse_reverse]

/-- The normal form is reached by the rules, and none of them applies to it. -/
theorem reach_normalComponents (cs : List Component) :
    ReflTransGen Simplifies cs (normalComponents cs) ∧ IsSimple (normalComponents cs) := by
  obtain ⟨ds, hreach, hsimple⟩ := exists_isSimple cs
  have hds : normalComponents cs = ds := by
    rw [← normalComponents_of_reach hreach, normalComponents_of_isSimple hsimple]
  rw [hds]
  exact ⟨hreach, hsimple⟩

/-- Whatever rules have been applied, the normal form can still be reached. -/
theorem reach_normalComponents_of_reach {cs ds : List Component}
    (h : ReflTransGen Simplifies cs ds) : ReflTransGen Simplifies ds (normalComponents cs) := by
  rw [← normalComponents_of_reach h]
  exact (reach_normalComponents ds).1

/-- Rewriting has come to its end just where it has come to the normal form. -/
theorem isSimple_iff_of_reach {cs ds : List Component} (h : ReflTransGen Simplifies cs ds) :
    IsSimple ds ↔ ds = normalComponents cs := by
  constructor
  · intro hsimple
    rw [← normalComponents_of_reach h, normalComponents_of_isSimple hsimple]
  · rintro rfl
    exact (reach_normalComponents cs).2

theorem normalComponents_idem (cs : List Component) :
    normalComponents (normalComponents cs) = normalComponents cs :=
  normalComponents_of_reach (reach_normalComponents cs).1

/-! ### The root -/

theorem root_mem_pushNormal_iff {acc : List Component} {c : Component} :
    .root ∈ pushNormal acc c ↔ .root ∈ acc ∨ c = .root := by
  cases c with
  | root => simp [pushNormal]
  | current => simp [pushNormal]
  | name n => simp [pushNormal]
  | parent =>
    cases acc with
    | nil => simp [pushNormal]
    | cons d acc => cases d <;> simp [pushNormal]

theorem root_mem_normalComponents_iff {cs : List Component} :
    .root ∈ normalComponents cs ↔ .root ∈ cs := by
  have hstack : ∀ acc, .root ∈ cs.foldl pushNormal acc ↔ .root ∈ acc ∨ .root ∈ cs := by
    induction cs with
    | nil => simp
    | cons c cs ih =>
      intro acc
      rw [List.foldl_cons, ih, root_mem_pushNormal_iff, List.mem_cons, or_assoc,
        eq_comm (a := c)]
  rw [normalComponents, List.mem_reverse, hstack]
  simp

theorem root_not_mem_map_ofPart (ps : List (List UInt8)) : .root ∉ ps.map Component.ofPart := by
  intro hroot
  obtain ⟨part, -, hpart⟩ := List.mem_map.1 hroot
  unfold Component.ofPart at hpart
  split_ifs at hpart

theorem root_not_mem_piecesComponents (pieces : List (List UInt8)) :
    .root ∉ piecesComponents pieces :=
  root_not_mem_map_ofPart _

theorem isAbsolute_iff (p : Path) : p.isAbsolute = true ↔ .root ∈ p.components := by
  rw [components_eq, isAbsolute, decide_eq_true_iff]
  cases p.spelling with
  | nil => simp [spelled, split, piecesComponents, isIdle, Lead.components]
  | cons c cs =>
    by_cases hc : c = slash
    · simp [hc, spelled_root]
    · have hlead : .root ∉ (split (c :: cs)).1.components := by
        rw [split_of_ne hc]
        split <;> simp [Lead.components]
      simp [hc, spelled, hlead, root_not_mem_piecesComponents]

theorem isAbsolute_normalize (p : Path) : p.normalize.isAbsolute = p.isAbsolute := by
  rw [Bool.eq_iff_iff, isAbsolute_iff, isAbsolute_iff, components_normalize,
    root_mem_normalComponents_iff]

/-! ### Joining -/

theorem current_not_mem_piecesComponents (pieces : List (List UInt8)) :
    .current ∉ piecesComponents pieces := by
  intro hcurrent
  obtain ⟨piece, hpiece, hofPart⟩ := List.mem_map.1 hcurrent
  have hidle := (List.mem_filter.1 hpiece).2
  unfold Component.ofPart at hofPart
  split_ifs at hofPart with hdot
  rw [hdot] at hidle
  cases hidle

/-- The pieces of a relative path denote what the path does, up to a leading `.`. -/
theorem piecesComponents_piecesOf {cs : List UInt8} (h : cs.head? ≠ some slash) :
    piecesComponents (piecesOf cs) = (spelled cs).filter (· ≠ .current) := by
  have hkeep : ∀ pieces, (piecesComponents pieces).filter (· ≠ .current) =
      piecesComponents pieces := by
    intro pieces
    refine List.filter_eq_self.2 fun c hc => ?_
    have hne : c ≠ .current := fun hcurrent =>
      current_not_mem_piecesComponents pieces (hcurrent ▸ hc)
    simpa using hne
  cases cs with
  | nil => rfl
  | cons c cs =>
    have hc : c ≠ slash := by simpa using h
    rw [spelled, split_of_ne hc]
    split
    · next rest hrest =>
      -- the leading `.` is a component of the path and an idle piece
      change piecesOf (c :: cs) = [dot] :: rest at hrest
      have hidle : piecesComponents ([dot] :: rest) = piecesComponents rest := by
        simp [piecesComponents, isIdle]
      rw [hrest, hidle, List.filter_append, hkeep]
      rfl
    · rw [List.filter_append, hkeep]
      rfl

theorem normalComponents_filter_current (front back : List Component) :
    normalComponents (front ++ back.filter (· ≠ .current)) = normalComponents (front ++ back) := by
  rw [normalComponents, normalComponents, List.foldl_append, List.foldl_append,
    foldl_pushNormal_filter]

/-- The normal form of a path below another. -/
theorem normalComponents_join {a b : Path} (hb : b.isAbsolute = false) :
    normalComponents (a.join b).components = normalComponents (a.components ++ b.components) := by
  by_cases ha : a.spelling = []
  · have hempty : a.components = [] := by
      rw [components_eq, ha]
      rfl
    rw [join_of_empty ha, hempty, List.nil_append]
  · have hrelative : b.spelling.head? ≠ some slash := by simpa [isAbsolute] using hb
    rw [components_join ha hb, piecesComponents_piecesOf hrelative,
      normalComponents_filter_current, components_eq b]

/-- Only the normal form of what stands in front counts. -/
theorem normalComponents_normalComponents_append (front back : List Component) :
    normalComponents (normalComponents front ++ back) = normalComponents (front ++ back) := by
  have hstack : (normalComponents front).foldl pushNormal [] = front.foldl pushNormal [] :=
    List.reverse_injective (normalComponents_idem front)
  unfold normalComponents at hstack ⊢
  rw [List.foldl_append, hstack, ← List.foldl_append]

/-! ### The normal form of a path -/

/-- **Every order of rewriting ends in the normal form of the path.**  It consists of names below
the root or a run of `..`, and starts at the root if the path does.  The rules can be applied to the
path only finitely often; whatever has been applied, the normal form can still be reached, and no
rule is left to apply just when it is reached.  So a normal form is its own, and before joining a
relative path the first path may be replaced by its normal form. -/
theorem normalize_unique_normal_form (p : Path) :
    IsNormal p.normalize.components ∧
    p.normalize.isAbsolute = p.isAbsolute ∧
    Acc (fun ds cs => Simplifies cs ds) p.components ∧
    (∀ ds, ReflTransGen Simplifies p.components ds →
      ReflTransGen Simplifies ds p.normalize.components ∧
        (IsSimple ds ↔ ds = p.normalize.components)) ∧
    p.normalize.normalize = p.normalize ∧
    ∀ q : Path, q.isAbsolute = false → (p.join q).normalize = (p.normalize.join q).normalize := by
  have hcomponents := components_normalize p
  refine ⟨?_, isAbsolute_normalize p, wellFounded_simplifies.apply p.components, ?_, ?_, ?_⟩
  · rw [hcomponents]
    exact isNormal_normalComponents p
  · intro ds hreach
    rw [hcomponents]
    exact ⟨reach_normalComponents_of_reach hreach, isSimple_iff_of_reach hreach⟩
  · rw [normalize, hcomponents, normalComponents_idem, normalize]
  · intro q hq
    rw [normalize, normalize, normalComponents_join hq, normalComponents_join hq, hcomponents,
      normalComponents_normalComponents_append]

/-- A path that goes up over the root, and one that starts with `.` and goes up further than the
path before it. -/
theorem normalize_detours :
    (Path.ofText "./../../c").isAbsolute = false ∧
    ((Path.ofText "/a/../../b/.").normalize.join (.ofText "./../../c")).normalize = (.ofText "/c") ∧
    ((Path.ofText "a/./b").normalize.join (.ofText "../../../c")).normalize = (.ofText "../c") := by
  obtain ⟨-, -, -, -, -, hroot⟩ := normalize_unique_normal_form (.ofText "/a/../../b/.")
  obtain ⟨-, -, -, -, -, hfront⟩ := normalize_unique_normal_form (.ofText "a/./b")
  rw [← hroot (.ofText "./../../c") (by decide), ← hfront (.ofText "../../../c") (by decide)]
  decide

end Path

end LexicalModel
