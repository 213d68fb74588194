import LexicalModel.Package.Compile
import LexicalModel.Proofs.Failure
import Mathlib.Data.List.Forall2

/-!
# What a compiled package holds

The entries of a package are those of the listed files, and last its descriptor, which names the
same files.  So what a package includes can be told from its entries as well as from its descriptor.

* `CompiledPackage.compile_ok` : what there is to a compilation that succeeds
* `CompiledPackage.collect_ok` : the entries of the listed files
* `packageIncludes_compile` : when a package includes fonts
-/

namespace LexicalModel

/-- The name of a listed file in a package: the last part of its reference that is not empty, or the
reference itself where there is none. -/
def ProjectFile.packedName (f : ProjectFile) : String :=
  ((Reference.parts f.source).getLast?.map String.ofList).getD f.source

theorem ProjectFile.fileName_eq_packedName (f : ProjectFile) :
    Reference.fileName f.source = f.packedName := by
  unfold Reference.fileName packedName
  cases (Reference.parts f.source).getLast? <;> rfl

namespace CompiledPackage

/-- The descriptor of a package with the given entries for the listed files. -/
def descriptorOf (project : PackageProject) (entries : List ArchiveEntry) : PackageDescriptor where
  fileVersion := PackageDescriptor.currentFileVersion
  info := project.info
  files := List.zipWith (fun e f => ⟨e.name, f.description⟩) entries project.files
  lexicalModels := project.lexicalModels

/-- The package with the given entries for the listed files. -/
def packageOf (project : PackageProject) (entries : List ArchiveEntry) : CompiledPackage where
  entries := entries ++ [⟨PackageDescriptor.fileName,
    Text.Utf8.encode (descriptorOf project entries).toJson.pretty⟩]
  descriptor := descriptorOf project entries

variable {σ : Type} [FileSystem σ] {s : σ}

theorem compile_ok {path : Path} {text : String} {package : CompiledPackage}
    (h : compile s path text = .ok package) :
    ∃ project entries, PackageProject.parse text = .ok project ∧ project.lexicalModels ≠ [] ∧
      collect s (path.parent?.getD (.ofText ".")) [] project.files = .ok entries ∧
      package = packageOf project entries := by
  obtain ⟨project, hproject, h⟩ := ok_of_bind h
  have hparse := Result.ok_of_ofCause (Result.ok_of_within hproject)
  dsimp only at h
  split at h
  · cases h
  · next hmodels =>
    obtain ⟨entries, hentries, h⟩ := ok_of_bind h
    cases h
    exact ⟨project, entries, hparse, hmodels, hentries, rfl⟩

theorem entryName_ok {taken : List String} {f : ProjectFile} {name : String}
    (h : entryName taken f = .ok name) : name = f.packedName := by
  simp only [entryName, f.fileName_eq_packedName] at h
  split at h
  · cases h
  · exact (Except.ok.inj h).symm

/-- The entry of a listed file: it has the file's own name, and holds what is read there. -/
structure IsEntryOf (s : σ) (base : Path) (e : ArchiveEntry) (f : ProjectFile) : Prop where
  /-- The name. -/
  name : e.name = f.packedName
  /-- The contents. -/
  bytes : FileSystem.read s (base.resolve f.source) = .ok e.bytes

theorem IsEntryOf.fileName {base : Path} {e : ArchiveEntry} {f : ProjectFile}
    (h : IsEntryOf s base e f) : e.name = Reference.fileName f.source :=
  h.name.trans f.fileName_eq_packedName.symm

/-- **Each listed file has its entry**, in the order of the list. -/
theorem collect_ok {base : Path} {taken : List String} {files : List ProjectFile}
    {entries : List ArchiveEntry} (h : collect s base taken files = .ok entries) :
    List.Forall₂ (IsEntryOf s base) entries files := by
  induction files generalizing taken entries with
  | nil =>
    cases h
    exact .nil
  | cons f fs ih =>
    obtain ⟨name, hname, h⟩ := ok_of_bind h
    obtain ⟨bytes, hbytes, h⟩ := ok_of_bind h
    obtain ⟨rest, hrest, h⟩ := ok_of_bind h
    cases h
    exact .cons ⟨entryName_ok hname, Result.ok_of_within hbytes⟩ (ih hrest)

theorem length_collect {base : Path} {taken : List String} {files : List ProjectFile}
    {entries : List ArchiveEntry} (h : collect s base taken files = .ok entries) :
    entries.length = files.length :=
  (collect_ok h).length_eq

/-- The descriptor names the entries of the listed files. -/
theorem names_descriptorOf {project : PackageProject} {entries : List ArchiveEntry}
    (h : entries.length = project.files.length) :
    (descriptorOf project entries).files.map PackageFile.name =
      entries.map ArchiveEntry.name := by
  calc (descriptorOf project entries).files.map PackageFile.name
      = (List.zip entries project.files).map fun p => p.1.name := by
        rw [descriptorOf, List.map_zipWith, List.map_zip_eq_zipWith]
        rfl
    _ = ((List.zip entries project.files).map Prod.fst).map ArchiveEntry.name := by
        rw [List.map_map]
        rfl
    _ = entries.map ArchiveEntry.name := by
        rw [List.map_fst_zip (Nat.le_of_eq h)]

end CompiledPackage

/-! ### Fonts -/

/-- The name ends as that of a font, in small or in capital letters. -/
def EndsAsFont (name : String) : Prop :=
  ∃ suffix ∈ [".ttf", ".otf", ".ttc", ".woff", ".woff2"], ∃ front tail : List Char,
    name.toList = front ++ tail ∧ tail.map Char.toLower = suffix.toList

theorem isFontName_iff (name : String) : isFontName name = true ↔ EndsAsFont name := by
  simp only [isFontName, List.any_eq_true, List.isSuffixOf_iff_suffix]
  refine exists_congr fun suffix => and_congr_right fun _ => ⟨?_, ?_⟩
  · rintro ⟨lower, hlower⟩
    obtain ⟨front, tail, hname, -, htail⟩ := List.map_eq_append_iff.1 hlower.symm
    exact ⟨front, tail, hname, htail⟩
  · rintro ⟨front, tail, hname, htail⟩
    exact ⟨front.map Char.toLower, by rw [hname, List.map_append, htail]⟩

/-- The descriptor names a font just where an entry is one: the descriptor itself is none. -/
theorem exists_font_iff {project : PackageProject} {entries : List ArchiveEntry}
    (h : entries.length = project.files.length) :
    (∃ n ∈ (CompiledPackage.descriptorOf project entries).files.map PackageFile.name,
        EndsAsFont n) ↔
      ∃ e ∈ (CompiledPackage.packageOf project entries).entries, EndsAsFont e.name := by
  have hdescriptor : ¬EndsAsFont PackageDescriptor.fileName := by
    rw [← isFontName_iff]
    decide
  rw [CompiledPackage.names_descriptorOf h]
  constructor
  · rintro ⟨n, hn, hfont⟩
    obtain ⟨e, he, rfl⟩ := List.mem_map.1 hn
    exact ⟨e, List.mem_append_left _ he, hfont⟩
  · rintro ⟨e, he, hfont⟩
    rcases List.mem_append.1 he with he | he
    · exact ⟨e.name, List.mem_map_of_mem he, hfont⟩
    · rw [List.mem_singleton.1 he] at hfont
      exact absurd hfont hdescriptor

theorem packageIncludes_cases (names : List String) :
    packageIncludes names = ["fonts"] ∧ (∃ n ∈ names, EndsAsFont n) ∨
      packageIncludes names = [] ∧ ¬∃ n ∈ names, EndsAsFont n := by
  have hfonts : names.any isFontName = true ↔ ∃ n ∈ names, EndsAsFont n := by
    simp only [List.any_eq_true, isFontName_iff]
  unfold packageIncludes
  split
  · next hany => exact .inl ⟨rfl, hfonts.1 hany⟩
  · next hany => exact .inr ⟨rfl, fun hsome => hany (hfonts.2 hsome)⟩

/-- A package includes fonts just where an entry has the name of one. -/
theorem packageIncludes_compile {σ : Type} [FileSystem σ] {s : σ} {path : Path} {text : String}
    {package : CompiledPackage} (h : CompiledPackage.compile s path text = .ok package) :
    packageIncludes (package.descriptor.files.map PackageFile.name) = ["fonts"] ∧
        (∃ e ∈ package.entries, EndsAsFont e.name) ∨
      packageIncludes (package.descriptor.files.map PackageFile.name) = [] ∧
        ¬∃ e ∈ package.entries, EndsAsFont e.name := by
  obtain ⟨project, entries, -, -, hentries, rfl⟩ := CompiledPackage.compile_ok h
  rw [← exists_font_iff (CompiledPackage.length_collect hentries)]
  exact packageIncludes_cases _

end LexicalModel
