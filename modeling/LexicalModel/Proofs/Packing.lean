import LexicalModel.FileSystem.Store
import LexicalModel.Proofs.Descriptor
import LexicalModel.Proofs.Package
import Mathlib.Data.List.Nodup

/-!
# Which packages can be made

The files that a project lists stand side by side in its package, each under the last part of its
reference.  So two files of one name clash even if they come from different folders, and none may
have the name of the descriptor, which is added last.  Beside that, each file has to be there.  The
first file of the list that breaks a rule ends the compilation, and it is that file that is
reported.

* `CompiledPackage.Packs` : files that can be packed
* `CompiledPackage.Obstructs` : a file that cannot, and what is reported of it
* `CompiledPackage.collect_of_packs`, `CompiledPackage.collect_of_obstructs` : collecting files
* `Archive.check_eq_ok_iff` : which entries can be archived
* `CompiledPackage.IsPackageOf` : what holds of the package of a project
* `CompiledPackage.compile_exactly` : when there is a package, what it holds, and what is reported
  where there is none
-/

namespace LexicalModel

/-- Names are put beside others one by one: each must be new, also to those that come after it. -/
theorem nodup_cons_disjoint_iff {name : String} {names taken : List String} :
    (name :: names).Nodup ∧ (name :: names).Disjoint taken ↔
      name ∉ taken ∧ names.Nodup ∧ names.Disjoint (name :: taken) := by
  rw [List.nodup_cons, List.disjoint_cons_left, List.disjoint_cons_right]
  tauto

namespace CompiledPackage

variable {σ : Type} [FileSystem σ] {s : σ} {base : Path} {taken : List String}

/-! ### Files that can be packed -/

/-- The file can be packed beside entries of the names `taken`. -/
structure Fits (s : σ) (base : Path) (taken : List String) (f : ProjectFile) : Prop where
  /-- It has not the name of the descriptor. -/
  unreserved : f.packedName ≠ PackageDescriptor.fileName
  /-- Its name is not taken. -/
  fresh : f.packedName ∉ taken
  /-- It can be read. -/
  readable : ∃ bytes, FileSystem.read s (base.resolve f.source) = .ok bytes

/-- The file cannot be packed beside entries of the names `taken`, which is reported as given. -/
inductive Obstructs (s : σ) (base : Path) (taken : List String) (f : ProjectFile) :
    Failure → Prop where
  /-- Its name is that of the descriptor, or it is taken. -/
  | clash (h : f.packedName = PackageDescriptor.fileName ∨ f.packedName ∈ taken) :
    Obstructs s base taken f (.ofCause (.duplicatePackageFile f.packedName))
  /-- It cannot be read. -/
  | unreadable (hreserved : f.packedName ≠ PackageDescriptor.fileName)
    (hfresh : f.packedName ∉ taken) {failure : Failure}
    (hread : FileSystem.read s (base.resolve f.source) = .error failure) :
    Obstructs s base taken f (failure.within (.readPackageFile f.source))

/-- The files can be packed beside entries of the names `taken`. -/
structure Packs (s : σ) (base : Path) (taken : List String) (files : List ProjectFile) : Prop where
  /-- No two of them have the same name. -/
  distinct : (files.map ProjectFile.packedName).Nodup
  /-- None has a name that is taken. -/
  fresh : (files.map ProjectFile.packedName).Disjoint taken
  /-- None has the name of the descriptor. -/
  unreserved : PackageDescriptor.fileName ∉ files.map ProjectFile.packedName
  /-- Each of them can be read. -/
  readable : ∀ f ∈ files, ∃ bytes, FileSystem.read s (base.resolve f.source) = .ok bytes

theorem fits_or_obstructs (s : σ) (base : Path) (taken : List String) (f : ProjectFile) :
    Fits s base taken f ∨ ∃ failure, Obstructs s base taken f failure := by
  by_cases hclash : f.packedName = PackageDescriptor.fileName ∨ f.packedName ∈ taken
  · exact .inr ⟨_, .clash hclash⟩
  · obtain ⟨hreserved, hfresh⟩ := not_or.1 hclash
    cases hread : FileSystem.read s (base.resolve f.source) with
    | error failure => exact .inr ⟨_, .unreadable hreserved hfresh hread⟩
    | ok bytes => exact .inl ⟨hreserved, hfresh, bytes, hread⟩

theorem Obstructs.congr {taken' : List String} {f : ProjectFile} {failure : Failure}
    (h : Obstructs s base taken f failure) (hmem : ∀ name, name ∈ taken ↔ name ∈ taken') :
    Obstructs s base taken' f failure := by
  cases h with
  | clash h => exact .clash (h.imp_right (hmem _).1)
  | unreadable hreserved hfresh hread =>
    exact .unreadable hreserved (fun htaken => hfresh ((hmem _).2 htaken)) hread

theorem packs_nil : Packs s base taken [] := by
  constructor <;> simp

/-- The first file has to fit, and the others beside it. -/
theorem packs_cons_iff {f : ProjectFile} {files : List ProjectFile} :
    Packs s base taken (f :: files) ↔
      Fits s base taken f ∧ Packs s base (f.packedName :: taken) files := by
  constructor
  · rintro ⟨hdistinct, hfresh, hreserved, hreadable⟩
    obtain ⟨hf, hdistinct, hfresh⟩ := nodup_cons_disjoint_iff.1 ⟨hdistinct, hfresh⟩
    rw [List.map_cons, List.mem_cons, not_or] at hreserved
    obtain ⟨hread, hreadable⟩ := List.forall_mem_cons.1 hreadable
    exact ⟨⟨Ne.symm hreserved.1, hf, hread⟩, hdistinct, hfresh, hreserved.2, hreadable⟩
  · rintro ⟨⟨hreserved, hf, hread⟩, hdistinct, hfresh, hothers, hreadable⟩
    obtain ⟨hdistinct, hfresh⟩ := nodup_cons_disjoint_iff.2 ⟨hf, hdistinct, hfresh⟩
    refine ⟨hdistinct, hfresh, ?_, List.forall_mem_cons.2 ⟨hread, hreadable⟩⟩
    rw [List.map_cons, List.mem_cons, not_or]
    exact ⟨hreserved.symm, hothers⟩

/-- Files that cannot be packed have a first one that is in the way. -/
theorem packs_or_obstructs (s : σ) (base : Path) (taken : List String) (files : List ProjectFile) :
    Packs s base taken files ∨ ∃ before f after failure, files = before ++ f :: after ∧
      Packs s base taken before ∧
      Obstructs s base (before.map ProjectFile.packedName ++ taken) f failure := by
  induction files generalizing taken with
  | nil => exact .inl packs_nil
  | cons f files ih =>
    rcases fits_or_obstructs s base taken f with hf | ⟨failure, hf⟩
    · -- `f` is in, so its name is taken for the files after it
      rcases ih (f.packedName :: taken) with hfiles | ⟨before, g, after, failure, rfl, hbefore, hg⟩
      · exact .inl (packs_cons_iff.2 ⟨hf, hfiles⟩)
      · refine .inr ⟨f :: before, g, after, failure, rfl, packs_cons_iff.2 ⟨hf, hbefore⟩, ?_⟩
        exact hg.congr fun name => List.perm_middle.mem_iff
    · exact .inr ⟨[], f, files, failure, rfl, packs_nil, hf⟩

/-! ### Collecting files -/

theorem entryName_eq (taken : List String) (f : ProjectFile) :
    entryName taken f =
      if f.packedName = PackageDescriptor.fileName ∨ f.packedName ∈ taken then
        Result.fail (.duplicatePackageFile f.packedName)
      else .ok f.packedName := by
  rw [← f.fileName_eq_packedName]
  rfl

theorem collect_of_fits {f : ProjectFile} (h : Fits s base taken f) (files : List ProjectFile) :
    ∃ bytes, collect s base taken (f :: files) =
      (collect s base (f.packedName :: taken) files).map (⟨f.packedName, bytes⟩ :: ·) := by
  obtain ⟨bytes, hread⟩ := h.readable
  have hname : entryName taken f = .ok f.packedName := by
    rw [entryName_eq, if_neg (not_or.2 ⟨h.unreserved, h.fresh⟩)]
  refine ⟨bytes, ?_⟩
  rw [collect, hname, ok_bind, hread]
  rfl

theorem collect_of_obstructs_first {f : ProjectFile} {failure : Failure}
    (h : Obstructs s base taken f failure) (files : List ProjectFile) :
    collect s base taken (f :: files) = .error failure := by
  cases h with
  | clash h =>
    have hname : entryName taken f = Result.fail (.duplicatePackageFile f.packedName) := by
      rw [entryName_eq, if_pos h]
    rw [collect, hname]
    rfl
  | unreadable hreserved hfresh hread =>
    have hname : entryName taken f = .ok f.packedName := by
      rw [entryName_eq, if_neg (not_or.2 ⟨hreserved, hfresh⟩)]
    rw [collect, hname, ok_bind, hread]
    rfl

theorem collect_of_packs {files : List ProjectFile} (h : Packs s base taken files) :
    ∃ entries, collect s base taken files = .ok entries := by
  induction files generalizing taken with
  | nil => exact ⟨[], rfl⟩
  | cons f files ih =>
    obtain ⟨hf, hfiles⟩ := packs_cons_iff.1 h
    obtain ⟨entries, hentries⟩ := ih hfiles
    obtain ⟨bytes, hcollect⟩ := collect_of_fits hf files
    rw [hcollect, hentries]
    exact ⟨_, rfl⟩

/-- **Collecting ends at the first file that is in the way**, whatever follows. -/
theorem collect_of_obstructs {before : List ProjectFile} {f : ProjectFile} {failure : Failure}
    (hbefore : Packs s base taken before)
    (h : Obstructs s base (before.map ProjectFile.packedName ++ taken) f failure)
    (after : List ProjectFile) : collect s base taken (before ++ f :: after) = .error failure := by
  induction before generalizing taken with
  | nil => exact collect_of_obstructs_first h after
  | cons g before ih =>
    obtain ⟨hg, hbefore⟩ := packs_cons_iff.1 hbefore
    obtain ⟨bytes, hcollect⟩ := collect_of_fits hg (before ++ f :: after)
    -- names are put in front as they are taken; which are taken does not depend on that order
    have hrest : collect s base (g.packedName :: taken) (before ++ f :: after) = .error failure :=
      ih hbefore (h.congr fun name => List.perm_middle.mem_iff.symm)
    rw [List.cons_append, hcollect, hrest]
    rfl

theorem packs_of_collect {files : List ProjectFile} {entries : List ArchiveEntry}
    (h : collect s base taken files = .ok entries) : Packs s base taken files := by
  rcases packs_or_obstructs s base taken files with
    hpacks | ⟨before, f, after, failure, rfl, hbefore, hf⟩
  · exact hpacks
  · rw [collect_of_obstructs hbefore hf after] at h
    cases h

end CompiledPackage

/-! ### Names in an archive -/

namespace Archive

theorem checkFrom_eq_ok_iff {taken : List String} {entries : List ArchiveEntry} :
    checkFrom taken entries = .ok () ↔
      (entries.map ArchiveEntry.name).Nodup ∧ (entries.map ArchiveEntry.name).Disjoint taken := by
  induction entries generalizing taken with
  | nil => simp [checkFrom]
  | cons e entries ih =>
    rw [checkFrom, List.map_cons, nodup_cons_disjoint_iff]
    by_cases htaken : e.name ∈ taken
    · simp [htaken]
    · rw [if_neg htaken, ih]
      exact (and_iff_right htaken).symm

/-- Entries can be archived just where no two have the same name. -/
theorem check_eq_ok_iff {entries : List ArchiveEntry} :
    check entries = .ok () ↔ (entries.map ArchiveEntry.name).Nodup := by
  rw [check, checkFrom_eq_ok_iff]
  simp

end Archive

/-- Entries of distinct names are archived. -/
def Archiver.TakesDistinct (archive : Archiver) : Prop :=
  ∀ entries, (entries.map ArchiveEntry.name).Nodup → ∃ bytes, archive entries = .ok bytes

theorem Archive.archiveAs_takesDistinct (form : List ArchiveEntry → ByteArray) :
    (archiveAs form).TakesDistinct := by
  intro entries hnames
  rw [archiveAs, check_eq_ok_iff.2 hnames]
  exact ⟨form entries, rfl⟩

/-! ### The package -/

namespace CompiledPackage

variable {σ : Type} [FileSystem σ] {s : σ} {base : Path}

/-- What holds of the package of a project whose references start from `base`. -/
structure IsPackageOf (s : σ) (base : Path) (project : PackageProject)
    (package : CompiledPackage) : Prop where
  /-- The entries are those of the listed files in order, and last the descriptor, which can be read
  back. -/
  entries : ∃ listed metadata,
    package.entries = listed ++ [⟨PackageDescriptor.fileName, metadata⟩] ∧
      List.Forall₂ (IsEntryOf s base) listed project.files ∧
      Json.decodeBytes PackageDescriptor.decoder metadata = .ok package.descriptor
  /-- No two entries have the same name. -/
  distinct : (package.entries.map ArchiveEntry.name).Nodup
  /-- The entries can be archived. -/
  archived : Archive.check package.entries = .ok ()
  /-- The descriptor lists the files in order, under their names in the package. -/
  files : package.descriptor.files = project.files.map fun f => ⟨f.packedName, f.description⟩
  /-- The general information is that of the project. -/
  info : package.descriptor.info = project.info
  /-- The models are those of the project. -/
  lexicalModels : package.descriptor.lexicalModels = project.lexicalModels

theorem compile_of_parse {path : Path} {text : String} {project : PackageProject}
    (hparse : PackageProject.parse text = .ok project) (hmodels : project.lexicalModels ≠ []) :
    compile s path text =
      (collect s (path.parent?.getD (.ofText ".")) [] project.files).map (packageOf project) := by
  rw [compile, hparse]
  change (if project.lexicalModels = [] then _ else _) = _
  rw [if_neg hmodels]
  rfl

theorem names_of_forall₂ {entries : List ArchiveEntry} {files : List ProjectFile}
    (h : List.Forall₂ (IsEntryOf s base) entries files) :
    entries.map ArchiveEntry.name = files.map ProjectFile.packedName := by
  induction h with
  | nil => rfl
  | cons hentry _ ih => rw [List.map_cons, List.map_cons, ih, hentry.name]

theorem files_of_forall₂ {entries : List ArchiveEntry} {files : List ProjectFile}
    (h : List.Forall₂ (IsEntryOf s base) entries files) :
    List.zipWith (fun e f => (⟨e.name, f.description⟩ : PackageFile)) entries files =
      files.map fun f => ⟨f.packedName, f.description⟩ := by
  induction h with
  | nil => rfl
  | cons hentry _ ih =>
    rw [List.zipWith_cons_cons, List.map_cons, ih, hentry.name]

theorem nodup_names_packageOf {project : PackageProject} {entries : List ArchiveEntry}
    (h : collect s base [] project.files = .ok entries) :
    ((packageOf project entries).entries.map ArchiveEntry.name).Nodup := by
  have hpacks := packs_of_collect h
  rw [packageOf, List.map_append, names_of_forall₂ (collect_ok h), List.map_singleton,
    ← List.concat_eq_append]
  exact hpacks.distinct.concat hpacks.unreserved

/-- No two entries of a package have the same name. -/
theorem nodup_names {path : Path} {text : String} {package : CompiledPackage}
    (h : compile s path text = .ok package) : (package.entries.map ArchiveEntry.name).Nodup := by
  obtain ⟨project, entries, -, -, hentries, rfl⟩ := compile_ok h
  exact nodup_names_packageOf hentries

theorem isPackageOf_packageOf {project : PackageProject} {entries : List ArchiveEntry}
    (h : collect s base [] project.files = .ok entries) :
    IsPackageOf s base project (packageOf project entries) where
  entries := ⟨entries, _, rfl, collect_ok h,
    (PackageDescriptor.readsAs_toJson (by decide) _).roundTrips.bytes .pretty⟩
  distinct := nodup_names_packageOf h
  archived := Archive.check_eq_ok_iff.2 (nodup_names_packageOf h)
  files := files_of_forall₂ (collect_ok h)
  info := rfl
  lexicalModels := rfl

/-- **A package is made just where its files can be packed.**  It is made if the project can be
read, has a model, and lists files that have different names, none of them that of the descriptor,
and that can all be read.  Then its entries are those files, and its descriptor says what the
project does.  Otherwise, where the project can be read and has a model, what is reported is the
first file that is in the way. -/
theorem compile_exactly (s : σ) (path : Path) (text : String) :
    ((∃ package, compile s path text = .ok package) ↔
      ∃ project, PackageProject.parse text = .ok project ∧ project.lexicalModels ≠ [] ∧
        Packs s (path.parent?.getD (.ofText ".")) [] project.files) ∧
    (∀ project package, PackageProject.parse text = .ok project →
      compile s path text = .ok package →
      IsPackageOf s (path.parent?.getD (.ofText ".")) project package) ∧
    ∀ project failure, PackageProject.parse text = .ok project → project.lexicalModels ≠ [] →
      compile s path text = .error failure →
      ∃ before f after, project.files = before ++ f :: after ∧
        Packs s (path.parent?.getD (.ofText ".")) [] before ∧
        Obstructs s (path.parent?.getD (.ofText ".")) (before.map ProjectFile.packedName) f
          failure := by
  refine ⟨⟨?_, ?_⟩, ?_, ?_⟩
  · rintro ⟨package, h⟩
    obtain ⟨project, entries, hparse, hmodels, hentries, -⟩ := compile_ok h
    exact ⟨project, hparse, hmodels, packs_of_collect hentries⟩
  · rintro ⟨project, hparse, hmodels, hpacks⟩
    obtain ⟨entries, hentries⟩ := collect_of_packs hpacks
    rw [compile_of_parse hparse hmodels, hentries]
    exact ⟨_, rfl⟩
  · intro project package hparse h
    obtain ⟨project', entries, hparse', -, hentries, rfl⟩ := compile_ok h
    cases hparse.symm.trans hparse'
    exact isPackageOf_packageOf hentries
  · intro project failure hparse hmodels h
    rw [compile_of_parse hparse hmodels] at h
    rcases packs_or_obstructs s (path.parent?.getD (.ofText ".")) [] project.files with
      hpacks | ⟨before, f, after, failure', hfiles, hbefore, hf⟩
    · obtain ⟨entries, hentries⟩ := collect_of_packs hpacks
      rw [hentries] at h
      cases h
    · -- what comes after the first file in the way is not looked at
      rw [hfiles, collect_of_obstructs hbefore hf after] at h
      cases h
      rw [List.append_nil] at hf
      exact ⟨before, f, after, hfiles, hbefore, hf⟩

/-- A script and a font, in folders of their own. -/
def foldersStore : Store :=
  (Store.empty.insert (.ofText "/g/build/m.js") (Text.Utf8.encode "model();")).insert
    (.ofText "/g/source/A.ttf") ⟨#[0, 159]⟩

/-- A project that lists them. -/
def foldersProject : PackageProject where
  files := [⟨"..\\build\\m.js", ""⟩, ⟨"A.ttf", ""⟩]
  lexicalModels := [{ id := "a.b.c" }]

/-- That project as it is written. -/
def foldersText : String :=
  "<Package><Files><File><Name>..\\build\\m.js</Name></File><File><Name>A.ttf</Name></File>" ++
  "</Files><LexicalModels><LexicalModel><ID>a.b.c</ID></LexicalModel></LexicalModels></Package>"

/-- The project has its package where it belongs, and none one folder up, where its script is
missing. -/
theorem compile_foldersStore :
    (∃ package, compile foldersStore (.ofText "/g/source/p.kps") foldersText = .ok package ∧
      package.entries.map ArchiveEntry.name = ["m.js", "A.ttf", "kmp.json"]) ∧
    ∃ failure, compile foldersStore (.ofText "/g/p.kps") foldersText = .error failure ∧
      ∃ before f after, foldersProject.files = before ++ f :: after ∧
        Obstructs foldersStore (.ofText "/g") (before.map ProjectFile.packedName) f failure := by
  have hparse : PackageProject.parse foldersText = .ok foldersProject := by decide +kernel
  constructor
  · have hpacks : Packs foldersStore (.ofText "/g/source") [] foldersProject.files := by
      refine ⟨by decide, List.disjoint_nil_right _, by decide, ?_⟩
      simp only [foldersProject, List.forall_mem_cons]
      exact ⟨⟨_, rfl⟩, ⟨_, rfl⟩, nofun⟩
    obtain ⟨⟨-, hmade⟩, hholds, -⟩ :=
      compile_exactly foldersStore (.ofText "/g/source/p.kps") foldersText
    obtain ⟨package, hpackage⟩ := hmade ⟨_, hparse, by decide, hpacks⟩
    obtain ⟨listed, metadata, hentries, hlisted, -⟩ := (hholds _ _ hparse hpackage).entries
    refine ⟨package, hpackage, ?_⟩
    rw [hentries, List.map_append, names_of_forall₂ hlisted]
    rfl
  · obtain ⟨⟨hmade, -⟩, -, hreports⟩ :=
      compile_exactly foldersStore (.ofText "/g/p.kps") foldersText
    cases hcompile : compile foldersStore (.ofText "/g/p.kps") foldersText with
    | ok package =>
      obtain ⟨project, hproject, -, hpacks⟩ := hmade ⟨package, hcompile⟩
      cases hparse.symm.trans hproject
      obtain ⟨bytes, hbytes⟩ := hpacks.readable _ List.mem_cons_self
      cases hbytes
    | error failure =>
      obtain ⟨before, f, after, hfiles, -, hf⟩ := hreports _ _ hparse (by decide) hcompile
      exact ⟨failure, rfl, before, f, after, hfiles, hf⟩

end CompiledPackage

end LexicalModel
