import LexicalModel.Proofs.Artifacts

/-!
# What a build depends on

A build lists the directory of the model and then reads files, each of which is named by those read
before: the info file by the listing, the sources by the description of the model, the files of the
package by its project.  The script is the one file that is written before the last ones are read.
Two stores that agree on all this are built alike, whatever else they hold: old artifacts, or files
that have nothing to do with the model.

* `BuildRequest.scriptInputs`, `packageInputs` : the files that are read for the script and for the
  package
* `SameInputs` : two stores agree on what a build reads
* `prepare_congr`, `bundle_congr`, `writes_congr` : the parts of a build come to the same then
* `build_depends_on_inputs` : so does the build, and it writes the same
-/

namespace LexicalModel

open Result (andThen_eq andThen_rel)

/-! ### The inputs of a build -/

/-- The transpiler looks at nothing but the source, and it changes nothing. -/
def Transpiler.IsFunction {σ : Type} (t : Transpiler σ) : Prop :=
  ∃ f : SourceFile → Result String, t = ofFunction f

theorem Transpiler.IsFunction.keepsFiles {σ : Type} {t : Transpiler σ} (h : t.IsFunction) :
    t.KeepsFiles := by
  obtain ⟨f, rfl⟩ := h
  intro source s
  rfl

/-- The file that the description of a model is read from, if it is read. -/
def SourceInput.path? (l : Layout) (id : Identifier) : SourceInput → Option Path
  | .layout => some (l.modelSourcePath id)
  | .file p => some p
  | .loaded _ => none

/-- The sources that a description lists, for the word breaker after those for the model. -/
def ModelSource.references (m : ModelSource) : List String :=
  m.sources ++ (m.wordBreaking.bind WordBreaking.sources).getD []

/-- The files that are read for the script of a model: its description and the listed sources. -/
def BuildRequest.scriptInputs (r : BuildRequest Store) (s : Store) (l : Layout) (id : Identifier) :
    List Path :=
  (r.input.path? l id).toList ++
    ((r.input.load s l id).toOption.map fun m => m.references.map l.sourceFile).getD []

/-- The project of the package, if it can be read. -/
def packageProject? (s : Store) (l : Layout) (id : Identifier) : Option PackageProject :=
  (FileSystem.readText s (l.packageSourcePath id)).toOption.bind fun text =>
    (PackageProject.parse text).toOption

/-- The files that are read for the package of a model: those that its project lists. -/
def packageInputs (s : Store) (l : Layout) (id : Identifier) : List Path :=
  ((packageProject? s l id).map fun project =>
    project.files.map fun f => l.sourceFile f.source).getD []

/-- The request is for the model `i` in the directories `l`. -/
structure BuildRequest.Concerns (r : BuildRequest Store) (s : Store) (l : Layout) (i : Identity) :
    Prop where
  /-- The directories are those around the build directory. -/
  layout : Layout.ofBuildDir r.buildDir = .ok l
  /-- The model is the one that is found there. -/
  identity : Identity.resolve s l = .ok i

/-- Two stores agree on what a build reads.  The files of the package need not agree where they are
the script, which is written before. -/
structure SameInputs (r : BuildRequest Store) (s t : Store) : Prop where
  /-- The directory of the model is listed alike. -/
  listing : ∀ l, Layout.ofBuildDir r.buildDir = .ok l →
    FileSystem.listFiles s l.modelDir = FileSystem.listFiles t l.modelDir
  /-- The author's info file is the same. -/
  info : ∀ l i, r.Concerns s l i → s.get? (l.infoPath i.id) = t.get? (l.infoPath i.id)
  /-- The description of the model and the listed sources are the same. -/
  script : ∀ l i, r.Concerns s l i → ∀ p ∈ r.scriptInputs s l i.id, s.get? p = t.get? p
  /-- The project of the package is the same. -/
  project : ∀ l i, r.Concerns s l i →
    s.get? (l.packageSourcePath i.id) = t.get? (l.packageSourcePath i.id)
  /-- The files of the package are the same. -/
  package : ∀ l i, r.Concerns s l i → ∀ p ∈ packageInputs s l i.id,
    (l.scriptPath i.id).components ≠ p.components → s.get? p = t.get? p

theorem BuildRequest.mem_scriptInputs_of_path? {r : BuildRequest Store} {s : Store} {l : Layout}
    {id : Identifier} {p : Path} (h : r.input.path? l id = some p) : p ∈ r.scriptInputs s l id := by
  simp [scriptInputs, h]

theorem BuildRequest.mem_scriptInputs_of_reference {r : BuildRequest Store} {s : Store} {l : Layout}
    {id : Identifier} {m : ModelSource} (h : r.input.load s l id = .ok m) {reference : String}
    (href : reference ∈ m.references) : l.sourceFile reference ∈ r.scriptInputs s l id := by
  refine List.mem_append_right _ ?_
  rw [h]
  exact List.mem_map_of_mem href

/-! ### The script -/

section Script

variable {s t : Store} {l : Layout}

theorem ModelSource.load_congr {p : Path} (h : s.get? p = t.get? p) : load s p = load t p := by
  rw [load, load, Store.readText_congr h]

theorem ModelInfo.load_congr {p : Path} (h : s.get? p = t.get? p) : load s p = load t p := by
  rw [load, load, Store.readText_congr h]

theorem SourceInput.load_congr {id : Identifier} {input : SourceInput}
    (h : ∀ p, input.path? l id = some p → s.get? p = t.get? p) :
    input.load s l id = input.load t l id := by
  cases input with
  | layout => exact ModelSource.load_congr (h _ rfl)
  | file p => exact ModelSource.load_congr (h p rfl)
  | loaded m => rfl

theorem Identity.resolve_congr
    (h : FileSystem.listFiles s l.modelDir = FileSystem.listFiles t l.modelDir) :
    resolve s l = resolve t l := by
  rw [resolve, resolve, h]

theorem readSources_congr {references : List String}
    (h : ∀ reference ∈ references,
      s.get? (l.sourceFile reference) = t.get? (l.sourceFile reference)) :
    readSources s l references = readSources t l references := by
  refine mapM_eq_of_mem fun reference hmem => ?_
  rw [readSource, readSource, Store.readText_congr (h reference hmem)]

theorem Transpiler.all_ofFunction (f : SourceFile → Result String) (files : List SourceFile) :
    ((ofFunction f).all files s).1 = ((ofFunction f).all files t).1 := by
  have htexts : ((ofFunction f).texts files s).1 = ((ofFunction f).texts files t).1 := by
    induction files with
    | nil => rfl
    | cons source rest ih =>
      refine andThen_eq rfl rfl rfl fun text _ => ?_
      exact andThen_eq (texts_state (fun _ _ => rfl) rest s) (texts_state (fun _ _ => rfl) rest t)
        ih fun texts _ => rfl
  exact andThen_eq (texts_state (fun _ _ => rfl) files s) (texts_state (fun _ _ => rfl) files t)
    htexts fun texts _ => rfl

variable {f : SourceFile → Result String}

/-- The sources of a class that the author wrote: they are read, then transpiled. -/
theorem transpiled_congr {references : List String}
    (h : ∀ reference ∈ references,
      s.get? (l.sourceFile reference) = t.get? (l.sourceFile reference))
    (place : String → Script) :
    (Result.andThen (readSources s l references, s) fun files s =>
      Result.andThen ((Transpiler.ofFunction f).all files s) fun code s =>
        ((.ok (place code) : Result Script), s)).1 =
    (Result.andThen (readSources t l references, t) fun files s =>
      Result.andThen ((Transpiler.ofFunction f).all files s) fun code s =>
        ((.ok (place code) : Result Script), s)).1 := by
  refine andThen_eq rfl rfl (readSources_congr h) fun files _ => ?_
  exact andThen_eq (Transpiler.all_state (fun _ _ => rfl) files s)
    (Transpiler.all_state (fun _ _ => rfl) files t) (Transpiler.all_ofFunction f files)
    fun code _ => rfl

/-- The emissions differ in where files are kept, at `s` and at `t`, and in nothing else. -/
def Emission.Beside (s t : Store) (e e' : Emission Store) : Prop :=
  e.files = s ∧ e' = { e with files := t }

theorem Emission.transpile_beside {e : Emission Store} (he : e.files = s)
    (sources : List SourceFile) :
    (e.transpile (.ofFunction f) sources).1 =
        (Emission.transpile (.ofFunction f) sources { e with files := t }).1 ∧
      Beside s t (e.transpile (.ofFunction f) sources).2
        (Emission.transpile (.ofFunction f) sources { e with files := t }).2 := by
  have hkeep : (Transpiler.ofFunction f : Transpiler Store).KeepsFiles := fun _ _ => rfl
  refine ⟨Transpiler.all_ofFunction f sources, ?_, ?_⟩
  · exact (Transpiler.all_state hkeep sources e.files).trans he
  · exact congrArg (Emission.mk e.wordBreaking e.script) (Transpiler.all_state hkeep sources t)

theorem emitWordBreaker_congr {w : WordBreaking}
    (h : ∀ reference ∈ w.sources.getD [],
      s.get? (l.sourceFile reference) = t.get? (l.sourceFile reference)) (script : Script) :
    (emitWordBreaker l (.ofFunction f) ⟨w, script, s⟩).1 =
        (emitWordBreaker l (.ofFunction f) ⟨w, script, t⟩).1 ∧
      Emission.Beside s t (emitWordBreaker l (.ofFunction f) ⟨w, script, s⟩).2
        (emitWordBreaker l (.ofFunction f) ⟨w, script, t⟩).2 := by
  unfold emitWordBreaker
  cases hsources : w.sources with
  | none => exact ⟨rfl, rfl, rfl⟩
  | some sources =>
    rw [hsources] at h
    refine andThen_rel (R := Emission.Beside s t) ⟨rfl, rfl, rfl⟩ ?_
    rintro rootClass e₁ _ ⟨rfl, rfl⟩
    refine andThen_rel (R := Emission.Beside e₁.files t) ⟨readSources_congr h, rfl, rfl⟩ ?_
    rintro files e₂ _ ⟨he₂, rfl⟩
    refine andThen_rel (R := Emission.Beside e₁.files t) (Emission.transpile_beside he₂ files) ?_
    rintro code e₃ _ ⟨he₃, rfl⟩
    exact ⟨rfl, he₃, rfl⟩

theorem emitDeclared_congr {declared : Option WordBreaking}
    (h : ∀ reference ∈ (declared.bind WordBreaking.sources).getD [],
      s.get? (l.sourceFile reference) = t.get? (l.sourceFile reference)) (script : Script) :
    (emitDeclared s l (Transpiler.ofFunction f) script declared).1 =
      (emitDeclared t l (Transpiler.ofFunction f) script declared).1 := by
  cases declared with
  | none => rfl
  | some w =>
    obtain ⟨hresult, -, hstate⟩ := emitWordBreaker_congr (f := f) h script
    simp only [emitDeclared, ← hresult, hstate]

theorem emitTransducer_congr {m : ModelSource}
    (h : ∀ reference ∈ m.sources,
      s.get? (l.sourceFile reference) = t.get? (l.sourceFile reference)) :
    emitTransducer s l m = emitTransducer t l m := by
  have hread : (m.sources.mapM fun reference => FileSystem.read s (l.sourceFile reference)) =
      m.sources.mapM fun reference => FileSystem.read t (l.sourceFile reference) :=
    mapM_eq_of_mem fun reference hmem => Store.read_congr (h reference hmem)
  rw [emitTransducer, emitTransducer, hread]

theorem emitModel_congr {tools : Tools Store} (htools : tools.transpiler = .ofFunction f)
    {m : ModelSource}
    (h : ∀ reference ∈ m.sources,
      s.get? (l.sourceFile reference) = t.get? (l.sourceFile reference))
    (script : Script) (format : ModelFormat) :
    (emitModel s l tools m script format).1 = (emitModel t l tools m script format).1 := by
  cases format with
  | custom =>
    rw [emitModel, emitModel, htools]
    exact andThen_eq rfl rfl rfl fun rootClass _ => transpiled_congr h _
  | fstFoma => exact emitTransducer_congr h
  | trie =>
    change emitTrie s l _ m script = emitTrie t l _ m script
    rw [emitTrie, emitTrie, readSources_congr h]

theorem generate_congr {tools : Tools Store} (htools : tools.transpiler.IsFunction)
    {m : ModelSource}
    (h : ∀ reference ∈ m.references,
      s.get? (l.sourceFile reference) = t.get? (l.sourceFile reference)) (id : Identifier) :
    (generate s l id m tools).1 = (generate t l id m tools).1 := by
  have hkeep := htools.keepsFiles
  obtain ⟨f, hf⟩ := htools
  have hmodel : ∀ reference ∈ m.sources,
      s.get? (l.sourceFile reference) = t.get? (l.sourceFile reference) :=
    fun reference hmem => h reference (List.mem_append_left _ hmem)
  refine andThen_eq rfl rfl rfl fun format _ => ?_
  refine andThen_eq (emitModel_state hkeep s l m {} format) (emitModel_state hkeep t l m {} format)
    (emitModel_congr hf hmodel {} format) fun script _ => ?_
  refine andThen_eq (emitDeclared_state hkeep s l script m.wordBreaking)
    (emitDeclared_state hkeep t l script m.wordBreaking) ?_ fun _ _ => rfl
  rw [hf]
  exact emitDeclared_congr (fun reference hmem => h reference (List.mem_append_right _ hmem)) script

end Script

section Congruence

variable {r : BuildRequest Store} {s t : Store} (h : SameInputs r s t)
include h

theorem gather_congr : gather s r = gather t r := by
  refine bind_eq_of_ok fun l hl => ?_
  rw [← Identity.resolve_congr (h.listing l hl)]
  refine bind_eq_of_ok fun i hi => ?_
  have hconcerns : r.Concerns s l i := ⟨hl, hi⟩
  have hsource : r.input.load s l i.id = r.input.load t l i.id :=
    SourceInput.load_congr fun p hp =>
      h.script l i hconcerns p (BuildRequest.mem_scriptInputs_of_path? hp)
  rw [ModelInfo.load_congr (h.info l i hconcerns), hsource]

/-- What is known before the first write is the same. -/
theorem prepare_congr (htools : r.tools.transpiler.IsFunction) :
    (prepare s r).1 = (prepare t r).1 := by
  refine andThen_eq rfl rfl (gather_congr h) fun ⟨l, i, info, source⟩ hgather => ?_
  obtain ⟨hl, hi, -, hsource⟩ := gather_ok hgather
  have hkeep := htools.keepsFiles
  refine andThen_eq (generate_state hkeep s l i.id source) (generate_state hkeep t l i.id source)
    (generate_congr htools (fun reference hmem => ?_) i.id) fun generated _ => rfl
  exact h.script l i ⟨hl, hi⟩ _ (BuildRequest.mem_scriptInputs_of_reference hsource hmem)

end Congruence

/-! ### The package -/

section Package

variable {s t : Store}

theorem CompiledPackage.collect_congr {base : Path} {files : List ProjectFile}
    (h : ∀ f ∈ files, s.get? (base.resolve f.source) = t.get? (base.resolve f.source))
    (taken : List String) : collect s base taken files = collect t base taken files := by
  induction files generalizing taken with
  | nil => rfl
  | cons f fs ih =>
    obtain ⟨hf, hfs⟩ := List.forall_mem_cons.1 h
    refine bind_eq_of_ok fun name _ => ?_
    rw [Store.read_congr hf]
    refine bind_eq_of_ok fun bytes _ => ?_
    rw [ih hfs]

theorem CompiledPackage.compile_congr {path : Path} {text : String}
    (h : ∀ project, PackageProject.parse text = .ok project → ∀ f ∈ project.files,
      s.get? ((path.parent?.getD (.ofText ".")).resolve f.source) =
        t.get? ((path.parent?.getD (.ofText ".")).resolve f.source)) :
    compile s path text = compile t path text := by
  refine bind_eq_of_ok fun project hproject => ?_
  have hparse := Result.ok_of_ofCause (Result.ok_of_within hproject)
  dsimp only
  rw [collect_congr (h project hparse)]

theorem bundle_congr {l : Layout} {id : Identifier} (archive : Archiver)
    (hproject : s.get? (l.packageSourcePath id) = t.get? (l.packageSourcePath id))
    (hfiles : ∀ p ∈ packageInputs s l id, s.get? p = t.get? p) :
    bundle s archive l id = bundle t archive l id := by
  rw [bundle, bundle, Store.readText_congr hproject]
  refine bind_eq_of_ok fun text htext => ?_
  rw [CompiledPackage.compile_congr]
  intro project hparse f hf
  rw [Layout.resolve_packageSourcePath]
  refine hfiles _ ?_
  rw [packageInputs, packageProject?, Store.readText_congr hproject, htext]
  simp only [Except.toOption, Option.bind_some, hparse]
  exact List.mem_map_of_mem hf

theorem packageProject?_congr {l : Layout} {id : Identifier}
    (h : s.get? (l.packageSourcePath id) = t.get? (l.packageSourcePath id)) :
    packageProject? s l id = packageProject? t l id := by
  rw [packageProject?, packageProject?, Store.readText_congr h]

theorem packageInputs_congr {l : Layout} {id : Identifier}
    (h : s.get? (l.packageSourcePath id) = t.get? (l.packageSourcePath id)) :
    packageInputs s l id = packageInputs t l id := by
  rw [packageInputs, packageInputs, packageProject?_congr h]

end Package

/-! ### The build -/

namespace Prepared

variable {r : BuildRequest Store} {s : Store} {p : Prepared}

theorem concerns (h : (prepare s r).1 = .ok p) : r.Concerns s p.layout p.identity := by
  obtain ⟨source, hgather, -⟩ := prepare_ok h
  obtain ⟨hl, hi, -, -⟩ := gather_ok hgather
  exact ⟨hl, hi⟩

/-- No file of a build is the project of the package. -/
theorem ne_packageSourcePath {q : Path} (hq : q ∈ [p.scriptPath, p.packagePath, p.manifestPath]) :
    q.components ≠ (p.layout.packageSourcePath p.identity.id).components := by
  rw [Layout.components_packageSourcePath]
  simp only [List.mem_cons, List.not_mem_nil, or_false] at hq
  rcases hq with rfl | rfl | rfl
  · rw [scriptPath, Layout.components_scriptPath]
    exact Layout.append_name_ne _ (by decide)
  · rw [packagePath, Layout.components_packagePath]
    exact Layout.append_name_ne _ (by decide)
  · rw [manifestPath, Layout.components_manifestPath]
    exact Layout.append_name_ne _ (by decide)

variable (p)

/-- The script does not take the place of the project of the package. -/
theorem get?_packageSourcePath (s : Store) :
    (p.withScript s).get? (p.layout.packageSourcePath p.identity.id) =
      s.get? (p.layout.packageSourcePath p.identity.id) :=
  Store.get?_insert_of_ne s _ (ne_packageSourcePath List.mem_cons_self)

end Prepared

section Build

variable {r : BuildRequest Store} {s t : Store} (h : SameInputs r s t)
include h

/-- Once the script is written, the package is made of the same files: the script is the one that
was just written, and the stores agree on all others. -/
theorem bundle_withScript_congr {p : Prepared} (hprepare : (prepare s r).1 = .ok p) :
    bundle (p.withScript s) r.archive p.layout p.identity.id =
      bundle (p.withScript t) r.archive p.layout p.identity.id := by
  have hconcerns := Prepared.concerns hprepare
  refine bundle_congr _ ?_ fun q hq => ?_
  · rw [p.get?_packageSourcePath, p.get?_packageSourcePath]
    exact h.project _ _ hconcerns
  · rw [packageInputs_congr (p.get?_packageSourcePath s)] at hq
    by_cases hscript : p.scriptPath.components = q.components
    · rw [← Store.get?_congr _ hscript, ← Store.get?_congr _ hscript, Prepared.withScript,
        Prepared.withScript, Store.get?_insert_self, Store.get?_insert_self]
    · rw [Prepared.withScript, Prepared.withScript, Store.get?_insert_of_ne _ _ hscript,
        Store.get?_insert_of_ne _ _ hscript]
      exact h.package _ _ hconcerns q hq hscript

variable (htools : r.tools.transpiler.IsFunction)
include htools

theorem writes_congr : r.writes s = r.writes t := by
  unfold BuildRequest.writes
  rw [← prepare_congr h htools]
  cases hprepare : (prepare s r).1 with
  | error f => rfl
  | ok p =>
    dsimp only
    rw [bundle_withScript_congr h hprepare]

theorem result_congr : (build s r).1 = (build t r).1 := by
  have hkeep := htools.keepsFiles
  rw [build_result s hkeep, build_result t hkeep, ← prepare_congr h htools]
  refine bind_eq_of_ok fun p hprepare => ?_
  rw [bundle_withScript_congr h hprepare]

end Build

/-- **A build depends only on its inputs.**  On stores that agree on what it reads, it ends in the
same way, and it writes the same contents to the same files in the same order. -/
theorem build_depends_on_inputs {r : BuildRequest Store} {s t : Store}
    (htools : r.tools.transpiler.IsFunction) (h : SameInputs r s t) :
    (build s r).1 = (build t r).1 ∧
      ∃ writes : List (Path × ByteArray),
        (build s r).2 = s.insertAll writes ∧ (build t r).2 = t.insertAll writes := by
  have hkeep := htools.keepsFiles
  refine ⟨result_congr h htools, r.writes s, build_state s hkeep, ?_⟩
  rw [writes_congr h htools]
  exact build_state t hkeep

/-- A package project that lists the script. -/
def scriptProject : String :=
  "<Package><Files><File><Name>..\\build\\a.b.c.model.js</Name></File></Files><LexicalModels>" ++
  "<LexicalModel><ID>a.b.c</ID></LexicalModel></LexicalModels></Package>"

/-- A model with its script in its package. -/
def scriptStore : Store :=
  (Store.empty.insert (.ofText "/g/a/b.c/a.b.c.model_info") (Text.Utf8.encode "\x7b\x7d")).insert
    (.ofText "/g/a/b.c/source/a.b.c.model.kps") (Text.Utf8.encode scriptProject)

/-- The same model, beside what an earlier build has left of its script. -/
def staleScriptStore : Store :=
  scriptStore.insert (.ofText "/g/a/b.c/build/a.b.c.model.js") (Text.Utf8.encode "stale")

/-- The directories of that model. -/
def customLayout : Layout := ⟨.ofText "/g/a/b.c/build", .ofText "/g/a/b.c"⟩

/-- The identity of that model. -/
def customIdentity : Identity := ⟨⟨"a", "b", "c", rfl, rfl, rfl⟩, ⟨"g", "a", "b.c"⟩⟩

theorem concerns_scriptStore {l : Layout} {i : Identity}
    (h : listingRequest.Concerns scriptStore l i) : l = customLayout ∧ i = customIdentity := by
  have hlayout : Layout.ofBuildDir listingRequest.buildDir = .ok customLayout := by
    rfl
  have hidentity : Identity.resolve scriptStore customLayout = .ok customIdentity := by
    decide +kernel
  obtain rfl : l = customLayout := Except.ok.inj (h.layout.symm.trans hlayout)
  exact ⟨rfl, Except.ok.inj (h.identity.symm.trans hidentity)⟩

/-- What the package of that model lists. -/
theorem project_scriptStore :
    ∃ project f, packageProject? scriptStore customLayout customIdentity.id = some project ∧
      project.files = [f] ∧ f.source = "..\\build\\a.b.c.model.js" := by
  have hsources : (packageProject? scriptStore customLayout customIdentity.id).map
      (fun project => project.files.map ProjectFile.source) =
      some ["..\\build\\a.b.c.model.js"] := by
    decide +kernel
  obtain ⟨project, hproject, hfiles⟩ := Option.map_eq_some_iff.1 hsources
  obtain ⟨f, hf, hsource⟩ := List.map_eq_singleton_iff.1 hfiles
  exact ⟨project, f, hproject, hf, hsource⟩

theorem packageInputs_scriptStore :
    packageInputs scriptStore customLayout customIdentity.id =
      [customLayout.sourceFile "..\\build\\a.b.c.model.js"] := by
  obtain ⟨project, f, hproject, hf, hsource⟩ := project_scriptStore
  rw [packageInputs, hproject, Option.map_some, Option.getD_some, hf, List.map_singleton, hsource]

/-- The stores differ in the script only. -/
theorem sameInputs_staleScriptStore : SameInputs listingRequest scriptStore staleScriptStore where
  listing l hl := by
    obtain rfl : l = customLayout := Except.ok.inj (hl.symm.trans rfl)
    decide +kernel
  info l i h := by
    obtain ⟨rfl, rfl⟩ := concerns_scriptStore h
    exact (Store.get?_insert_of_ne _ _ (by decide +kernel)).symm
  script l i h p hp := by
    obtain ⟨rfl, rfl⟩ := concerns_scriptStore h
    cases hp
  project l i h := by
    obtain ⟨rfl, rfl⟩ := concerns_scriptStore h
    exact (Store.get?_insert_of_ne _ _ (by decide +kernel)).symm
  package l i h p hp hscript := by
    obtain ⟨rfl, rfl⟩ := concerns_scriptStore h
    rw [packageInputs_scriptStore, List.mem_singleton] at hp
    subst hp
    exact absurd (by decide +kernel) hscript

theorem build_scriptStore :
    ∃ o s', build scriptStore listingRequest = (.ok o, s') ∧ o.identity = customIdentity ∧
      o.scriptPath = customLayout.scriptPath customIdentity.id ∧
      o.packagePath = customLayout.packagePath customIdentity.id ∧
      o.manifestPath = customLayout.manifestPath customIdentity.id := by
  have hok : (build scriptStore listingRequest).1.toOption.map
      (fun o => (o.identity, o.scriptPath, o.packagePath, o.manifestPath)) =
      some (customIdentity, customLayout.scriptPath customIdentity.id,
        customLayout.packagePath customIdentity.id,
        customLayout.manifestPath customIdentity.id) := by
    decide +kernel
  obtain ⟨o, ho, hfacts⟩ := Option.map_eq_some_iff.1 hok
  simp only [Prod.mk.injEq] at hfacts
  exact ⟨o, _, Result.ok_of_toOption ho, hfacts⟩

theorem build_ignores_stale_script :
    ∃ o, (build scriptStore listingRequest).1 = .ok o ∧
      (build staleScriptStore listingRequest).1 = .ok o := by
  obtain ⟨o, s', hend, -⟩ := build_scriptStore
  have hbuild := congrArg Prod.fst hend
  have hsame := build_depends_on_inputs ⟨_, rfl⟩ sameInputs_staleScriptStore
  exact ⟨o, hbuild, hsame.1 ▸ hbuild⟩

end LexicalModel
