import LexicalModel.Proofs.Packing
import LexicalModel.Proofs.Path.Reference

/-!
# The names of files in a package

A file is packed under the last part of its reference, taken as it is written.  It is read at the
normal form of its reference, in which no `.` is left and each `..` has taken back what stood before
it.  The two go together where the reference ends in a name: then this is the name of the file.  A
reference that ends in `.` or `..` denotes a file too, and that file is packed under these dots.

* `Reference.EndsInName` : references whose last part is a name
* `Path.fileName?_resolve_iff` : the last part of a reference and the file that it denotes
* `CompiledPackage.IsStoredAs` : what an entry has to do with the file that it came from
* `CompiledPackage.entries_named_iff` : which entries have the name of their file
-/

namespace LexicalModel

/-! ### The last part of a reference -/

namespace Reference

/-- The last part of the reference is a name: there is one, and it is neither `.` nor `..`. -/
def EndsInName (reference : String) : Prop :=
  ∃ part, (parts reference).getLast? = some part ∧ part ≠ ['.'] ∧ part ≠ ['.', '.']

theorem fileName_of_getLast? {reference : String} {part : List Char}
    (h : (parts reference).getLast? = some part) : fileName reference = String.ofList part := by
  simp only [fileName, h]

theorem fileName_of_parts_eq_nil {reference : String} (h : parts reference = []) :
    fileName reference = reference := by
  simp only [fileName, h, List.getLast?_nil]

/-- The last part of a reference that has parts is a name, or the file name consists of dots. -/
theorem endsInName_or_dots {reference : String} (h : parts reference ≠ []) :
    EndsInName reference ∨
      ¬EndsInName reference ∧ (fileName reference = "." ∨ fileName reference = "..") := by
  have hlast := List.getLast?_eq_some_getLast h
  have hname := fileName_of_getLast? hlast
  by_cases hdot : (parts reference).getLast h = ['.']
  · rw [hdot] at hlast hname
    refine .inr ⟨?_, .inl hname⟩
    rintro ⟨part, hpart, hne, -⟩
    exact hne (Option.some.inj (hpart.symm.trans hlast))
  by_cases hdots : (parts reference).getLast h = ['.', '.']
  · rw [hdots] at hlast hname
    refine .inr ⟨?_, .inr hname⟩
    rintro ⟨part, hpart, -, hne⟩
    exact hne (Option.some.inj (hpart.symm.trans hlast))
  · exact .inl ⟨_, hlast, hdot, hdots⟩

/-- The file name consists of dots just where there are parts and the last is no name. -/
theorem fileName_dots_iff (reference : String) :
    (fileName reference = "." ∨ fileName reference = "..") ↔
      parts reference ≠ [] ∧ ¬EndsInName reference := by
  by_cases h : parts reference = []
  · -- then it consists of separators, if of anything
    rw [fileName_of_parts_eq_nil h]
    simp only [ne_eq, h, not_true_eq_false, false_and, iff_false, not_or]
    constructor
    · rintro rfl
      exact absurd h (by decide)
    · rintro rfl
      exact absurd h (by decide)
  · rcases endsInName_or_dots h with hname | ⟨hname, hdots⟩
    · obtain ⟨part, hlast, hdot, hdots⟩ := hname
      have hfile := fileName_of_getLast? hlast
      simp only [hfile, ← String.toList_inj, String.toList_ofList]
      simp [h, hdot, hdots, EndsInName, hlast]
    · exact iff_of_true hdots ⟨h, hname⟩

end Reference

/-! ### The file that a reference denotes -/

namespace Path

/-- A reference that ends in a name denotes a file of that name. -/
theorem fileName?_resolve_of_name (base : Path) {reference : String} {part : List Char}
    (hlast : (Reference.parts reference).getLast? = some part) (hdot : part ≠ ['.'])
    (hdots : part ≠ ['.', '.']) :
    (base.resolve reference).fileName? = some (Text.Utf8.charBytes part) := by
  obtain ⟨front, hparts⟩ := List.getLast?_eq_some_iff.1 hlast
  have hpart : Component.ofChars part = .name (Text.Utf8.charBytes part) := by
    rw [ofChars_eq, if_neg hdot, if_neg hdots]
  rw [fileName?_eq_some_iff, components_resolve, hparts, List.map_append, ← List.append_assoc,
    List.map_singleton, hpart, normalComponents_append _ (by simp)]
  exact ⟨_, rfl⟩

/-- **The last part of a reference is the name of the file that it denotes just where it is a
name.** -/
theorem fileName?_resolve_iff (base : Path) {reference : String}
    (h : Reference.parts reference ≠ []) :
    (base.resolve reference).fileName? = some (Text.Utf8.bytes (Reference.fileName reference)) ↔
      Reference.EndsInName reference := by
  constructor
  · intro hfile
    rcases Reference.endsInName_or_dots h with hname | ⟨-, hdots⟩
    · exact hname
    · -- no file has a name of dots
      obtain ⟨-, -, hdot, hdots'⟩ := isName_bytes.1 (isName_of_fileName? hfile)
      rcases hdots with hdots | hdots
      · exact absurd (congrArg String.toList hdots) hdot
      · exact absurd (congrArg String.toList hdots) hdots'
  · rintro ⟨part, hlast, hdot, hdots⟩
    rw [Reference.fileName_of_getLast? hlast, Text.Utf8.bytes_ofList]
    exact fileName?_resolve_of_name base hlast hdot hdots

theorem resolve_of_parts_eq_nil (base : Path) {reference : String}
    (h : Reference.parts reference = []) : base.resolve reference = base.normalize := by
  simp only [resolve, normalize, h, List.map_nil, List.append_nil]

end Path

/-! ### Entries and their files -/

namespace CompiledPackage

variable {σ : Type} [FileSystem σ] {s : σ} {base : Path}

/-- What the entry of a listed file has to do with the file that it came from. -/
structure IsStoredAs (s : σ) (base : Path) (e : ArchiveEntry) (f : ProjectFile) : Prop where
  /-- It holds what is read at the path that the reference denotes. -/
  bytes : FileSystem.read s (base.resolve f.source) = .ok e.bytes
  /-- Its name is the last component of that path just where the reference ends in a name. -/
  named_iff : Reference.parts f.source ≠ [] →
    ((base.resolve f.source).fileName? = some (Text.Utf8.bytes e.name) ↔
      Reference.EndsInName f.source)
  /-- Its name consists of dots just where the reference has parts and does not end in a name. -/
  dots_iff : (e.name = "." ∨ e.name = "..") ↔
    Reference.parts f.source ≠ [] ∧ ¬Reference.EndsInName f.source
  /-- A reference without parts denotes the directory of the project, and is the name itself. -/
  partless : Reference.parts f.source = [] →
    e.name = f.source ∧ base.resolve f.source = base.normalize

theorem IsEntryOf.isStoredAs {e : ArchiveEntry} {f : ProjectFile} (h : IsEntryOf s base e f) :
    IsStoredAs s base e f where
  bytes := h.bytes
  named_iff hparts := by
    rw [h.fileName]
    exact Path.fileName?_resolve_iff base hparts
  dots_iff := by
    rw [h.fileName]
    exact Reference.fileName_dots_iff f.source
  partless hparts :=
    ⟨h.fileName.trans (Reference.fileName_of_parts_eq_nil hparts),
      Path.resolve_of_parts_eq_nil base hparts⟩

/-- **An entry has the name of its file just where the reference ends in a name.**  The entries of a
package are those of the listed files in order, and last the descriptor.  Each holds what is read at
the path that its reference denotes; if the reference has parts, the entry has the name of that file
where the last of them is a name, and is called `.` or `..` otherwise.  The same holds of every
reference, below every directory. -/
theorem entries_named_iff (s : σ) (path : Path) (text : String) :
    (∀ package, compile s path text = .ok package →
      ∃ project listed metadata, PackageProject.parse text = .ok project ∧
        package.entries = listed ++ [⟨PackageDescriptor.fileName, metadata⟩] ∧
        List.Forall₂ (IsStoredAs s (path.parent?.getD (.ofText "."))) listed project.files) ∧
    ∀ (base : Path) (reference : String), Reference.parts reference ≠ [] →
      ((base.resolve reference).fileName? =
          some (Text.Utf8.bytes (Reference.fileName reference)) ↔
        Reference.EndsInName reference) := by
  refine ⟨fun package h => ?_, fun base reference h => Path.fileName?_resolve_iff base h⟩
  obtain ⟨project, entries, hparse, -, hentries, rfl⟩ := compile_ok h
  have hstored := (collect_ok hentries).imp fun _ _ => IsEntryOf.isStoredAs
  exact ⟨project, entries, _, hparse, rfl, hstored⟩

/-- A project that refers to a script by its name, and to a font by its name and a dot. -/
def dottedProject : PackageProject where
  files := [⟨"..\\build\\m.js", ""⟩, ⟨"A.ttf/.", ""⟩]
  lexicalModels := [{ id := "a.b.c" }]

/-- That project as it is written. -/
def dottedText : String :=
  "<Package><Files><File><Name>..\\build\\m.js</Name></File><File><Name>A.ttf/.</Name></File>" ++
  "</Files><LexicalModels><LexicalModel><ID>a.b.c</ID></LexicalModel></LexicalModels></Package>"

theorem parse_dottedText : PackageProject.parse dottedText = .ok dottedProject := by
  decide +kernel

theorem exists_compile_dottedText :
    ∃ package, compile foldersStore (.ofText "/g/source/p.kps") dottedText = .ok package := by
  have hpacks : Packs foldersStore (.ofText "/g/source") [] dottedProject.files := by
    refine ⟨by decide, List.disjoint_nil_right _, by decide, ?_⟩
    simp only [dottedProject, List.forall_mem_cons]
    exact ⟨⟨_, rfl⟩, ⟨_, rfl⟩, nofun⟩
  obtain ⟨entries, hentries⟩ := collect_of_packs hpacks
  refine ⟨packageOf dottedProject entries, ?_⟩
  rw [compile_of_parse parse_dottedText (by decide)]
  exact congrArg (Except.map (packageOf dottedProject)) hentries

/-- In its package the script has its own name, and the font has not. -/
theorem dotted_entry_named_apart :
    ∃ package script font descriptor,
      compile foldersStore (.ofText "/g/source/p.kps") dottedText = .ok package ∧
      package.entries = [script, font, descriptor] ∧
      (Path.resolve (.ofText "/g/source") "..\\build\\m.js").fileName? =
        some (Text.Utf8.bytes script.name) ∧
      (Path.resolve (.ofText "/g/source") "A.ttf/.").fileName? ≠
        some (Text.Utf8.bytes font.name) := by
  obtain ⟨package, hpackage⟩ := exists_compile_dottedText
  obtain ⟨project, listed, metadata, hparse, hentries, hlisted⟩ :=
    (entries_named_iff foldersStore (.ofText "/g/source/p.kps") dottedText).1 package hpackage
  cases parse_dottedText.symm.trans hparse
  obtain ⟨script, _, hscript, hrest, rfl⟩ := List.forall₂_cons_right_iff.1 hlisted
  obtain ⟨font, _, hfont, hnil, rfl⟩ := List.forall₂_cons_right_iff.1 hrest
  cases hnil
  have hname : Reference.EndsInName "..\\build\\m.js" :=
    ⟨"m.js".toList, by decide, by decide, by decide⟩
  have hlast : (Reference.parts "A.ttf/.").getLast? = some ['.'] := by decide
  have hdots : ¬Reference.EndsInName "A.ttf/." := by
    rintro ⟨part, hpart, hne, -⟩
    exact hne (Option.some.inj (hpart.symm.trans hlast))
  refine ⟨package, script, font, _, hpackage, hentries, ?_, ?_⟩
  · exact (hscript.named_iff (by decide)).2 hname
  · exact fun hsame => hdots ((hfont.named_iff (by decide)).1 hsame)

/-- The font `A.ttf` is packed under the name `.`. -/
theorem packs_font_under_dot :
    (Path.resolve (.ofText "/g/source") "A.ttf/.").fileName? = some (Text.Utf8.bytes "A.ttf") ∧
    ∃ package, compile foldersStore (.ofText "/g/source/p.kps") dottedText = .ok package ∧
      package.entries.map ArchiveEntry.name = ["m.js", ".", "kmp.json"] := by
  refine ⟨by decide, ?_⟩
  obtain ⟨package, hpackage⟩ := exists_compile_dottedText
  obtain ⟨project, entries, hparse, -, hentries, rfl⟩ := compile_ok hpackage
  cases parse_dottedText.symm.trans hparse
  refine ⟨_, hpackage, ?_⟩
  rw [packageOf, List.map_append, names_of_forall₂ (collect_ok hentries)]
  rfl

end CompiledPackage

end LexicalModel
