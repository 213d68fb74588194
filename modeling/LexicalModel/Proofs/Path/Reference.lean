import LexicalModel.Proofs.Path.Normal

/-!
# What a reference denotes

A reference is cut at its separators, and what is empty between them does not count.  So it does not
matter which separators stand between two parts, or how many; and a part that goes up takes back the
directory before it.

* `Reference.partsOf_append` : the first part of a reference and the parts after it
* `Path.components_resolve` : what a reference denotes
* `Path.normalComponents_detour` : a name and `..` after it come to nothing
-/

namespace LexicalModel

namespace Reference

/-- At least one character, and none that separates. -/
def IsPart (part : List Char) : Prop := part ≠ [] ∧ ∀ c ∈ part, isSeparator c = false

/-- At least one character, and each of them separates. -/
def IsGap (gap : List Char) : Prop := gap ≠ [] ∧ ∀ c ∈ gap, isSeparator c = true

instance : DecidablePred IsPart := fun part =>
  decidable_of_iff (part ≠ [] ∧ (part.all fun c => !isSeparator c) = true) (by simp [IsPart])

instance : DecidablePred IsGap := fun gap =>
  decidable_of_iff (gap ≠ [] ∧ gap.all isSeparator = true) (by simp [IsGap])

/-- The non-empty parts of a spelled reference. -/
def partsOf (cs : List Char) : List (List Char) := (cs.splitOnP isSeparator).filter (· ≠ [])

theorem parts_eq (reference : String) : parts reference = partsOf reference.toList := rfl

theorem partsOf_of_isPart {part : List Char} (h : IsPart part) : partsOf part = [part] := by
  rw [partsOf, List.splitOnP_eq_singleton h.2, List.filter_singleton]
  simp [h.1]

@[simp] theorem partsOf_nil : partsOf [] = [] := rfl

/-- A separator stands between the parts before it and those after it. -/
theorem partsOf_append_cons (front : List Char) {c : Char} (hc : isSeparator c = true)
    (back : List Char) : partsOf (front ++ c :: back) = partsOf front ++ partsOf back := by
  rw [partsOf, List.splitOnP_append_cons _ _ hc, List.filter_append]
  rfl

theorem partsOf_cons {c : Char} (hc : isSeparator c = true) (cs : List Char) :
    partsOf (c :: cs) = partsOf cs :=
  partsOf_append_cons [] hc cs

/-- Separators in front do not count. -/
theorem partsOf_separators_append {gap : List Char} (h : ∀ c ∈ gap, isSeparator c = true)
    (cs : List Char) : partsOf (gap ++ cs) = partsOf cs := by
  induction gap with
  | nil => rfl
  | cons c gap ih =>
    obtain ⟨hc, hgap⟩ := List.forall_mem_cons.1 h
    rw [List.cons_append, partsOf_cons hc, ih hgap]

/-- **The first part of a reference is followed by the parts after it**, whatever separates them. -/
theorem partsOf_append {part gap : List Char} (hpart : IsPart part) (hgap : IsGap gap)
    (cs : List Char) : partsOf (part ++ (gap ++ cs)) = part :: partsOf cs := by
  obtain ⟨c, gap, rfl⟩ := List.exists_cons_of_ne_nil hgap.1
  obtain ⟨hc, hrest⟩ := List.forall_mem_cons.1 hgap.2
  rw [List.cons_append, partsOf_append_cons part hc, partsOf_of_isPart hpart,
    partsOf_separators_append hrest, List.singleton_append]

theorem isPart_of_mem_parts {reference : String} {part : List Char}
    (h : part ∈ parts reference) : IsPart part := by
  obtain ⟨hpiece, hne⟩ := List.mem_filter.1 h
  exact ⟨by simpa using hne, Path.eq_false_of_mem_splitOnP hpiece⟩

end Reference

namespace Path

/-- A `.` adds nothing to a normal form. -/
theorem foldl_pushNormal_filter (acc steps : List Component) :
    (steps.filter (· ≠ .current)).foldl pushNormal acc = steps.foldl pushNormal acc := by
  induction steps generalizing acc with
  | nil => rfl
  | cons c steps ih =>
    by_cases hc : c = .current
    · rw [List.filter_cons_of_neg (by simp [hc]), ih, hc]
      rfl
    · rw [List.filter_cons_of_pos (by simp [hc]), List.foldl_cons, List.foldl_cons, ih]

/-- A part of a reference has bytes, and none that separates the pieces of a path. -/
theorem charBytes_of_isPart {part : List Char} (h : Reference.IsPart part) :
    Text.Utf8.charBytes part ≠ [] ∧ slash ∉ Text.Utf8.charBytes part := by
  rw [slash_mem_charBytes]
  refine ⟨fun hnil => h.1 (Text.Utf8.charBytes_injective hnil), fun hmem => ?_⟩
  exact absurd (h.2 '/' hmem) (by decide)

/-- A part of a reference is a `.` or a step. -/
theorem isStep_ofChars {part : List Char} (h : Reference.IsPart part)
    (hcurrent : Component.ofChars part ≠ .current) : IsStep (Component.ofChars part) := by
  obtain ⟨hnil, hslash⟩ := charBytes_of_isPart h
  have hdot : Text.Utf8.charBytes part ≠ [dot] := by
    intro hdot
    exact hcurrent (if_pos hdot)
  exact isStep_ofPart hslash (by simp [isIdle, hnil, hdot])

theorem isNormal_resolve (base : Path) (reference : String) :
    IsNormal (normalComponents
      (base.components ++ (Reference.parts reference).map Component.ofChars)) := by
  rw [normalComponents, List.foldl_append, ← foldl_pushNormal_filter]
  refine isNormal_foldl_pushNormal (isNormal_normalComponents base) fun c hc => ?_
  obtain ⟨hmem, hcurrent⟩ := List.mem_filter.1 hc
  obtain ⟨part, hpart, rfl⟩ := List.mem_map.1 hmem
  exact isStep_ofChars (Reference.isPart_of_mem_parts hpart) (by simpa using hcurrent)

/-- **What a reference denotes below a directory.** -/
theorem components_resolve (base : Path) (reference : String) :
    (base.resolve reference).components =
      normalComponents (base.components ++ (Reference.parts reference).map Component.ofChars) :=
  components_ofComponents (isNormal_resolve base reference)

/-- **A name and `..` after it come to nothing.** -/
theorem normalComponents_detour (front : List Component) (n : List UInt8) (tail : List Component) :
    normalComponents (front ++ .name n :: .parent :: tail) = normalComponents (front ++ tail) := by
  rw [normalComponents, normalComponents, List.foldl_append, List.foldl_append]
  rfl

theorem isNormal_root_cons {entries : List Component} (h : ∀ c ∈ entries, IsEntry c) :
    IsNormal (.root :: entries) :=
  ⟨[.root], entries, rfl, .inl rfl, h⟩

/-- Names below the root are their own normal form. -/
theorem normalComponents_root_cons {entries : List Component} (h : ∀ c ∈ entries, IsEntry c) :
    normalComponents (.root :: entries) = .root :: entries := by
  have hname : ∀ c ∈ entries, c ≠ .parent ∧ c ≠ .current := by
    intro c hc
    obtain ⟨n, rfl, -⟩ := h c hc
    exact ⟨nofun, nofun⟩
  have hparent : Component.parent ∉ entries := fun hmem => (hname _ hmem).1 rfl
  have hkept : entries.filter (· ≠ .current) = entries :=
    List.filter_eq_self.2 fun c hc => by simpa using (hname c hc).2
  rw [← List.singleton_append, normalComponents_append _ hparent, hkept]
  rfl

/-- What an absolute path without `..` denotes: names below the root. -/
theorem components_of_isAbsolute {p : Path} (habsolute : p.isAbsolute = true)
    (hparent : Component.parent ∉ p.components) :
    p.components = .root :: (namesOf p.components).map .name ∧
      ∀ c ∈ (namesOf p.components).map Component.name, IsEntry c := by
  have hlead : ∃ rest, p.spelling = slash :: rest := by
    simpa [isAbsolute, List.head?_eq_some_iff] using habsolute
  obtain ⟨rest, hrest⟩ := hlead
  have hcomponents : p.components = .root :: piecesComponents (piecesOf rest) := by
    rw [components_eq, hrest, spelled_root]
  have hentries : ∀ c ∈ piecesComponents (piecesOf rest), IsEntry c := by
    intro c hc
    rcases isStep_of_mem_piecesComponents (fun piece hp => not_mem_of_mem_piecesOf hp) hc with
      rfl | hentry
    · rw [hcomponents] at hparent
      exact absurd (List.mem_cons_of_mem _ hc) hparent
    · exact hentry
  have hnames : namesOf p.components = namesOf (piecesComponents (piecesOf rest)) := by
    rw [hcomponents, namesOf_cons]
    rfl
  rw [hnames, map_name_namesOf hentries]
  exact ⟨hcomponents, hentries⟩

end Path

end LexicalModel
