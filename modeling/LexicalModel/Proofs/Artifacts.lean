import LexicalModel.Proofs.Build
import LexicalModel.Proofs.Info
import LexicalModel.Proofs.Package

/-!
# What a build leaves

A build that succeeds has written three files, and the outcome says of them what is true.

* `Artifacts` : what holds of the files after a build
* `build_leaves_artifacts` : it holds after every build that succeeds
-/

namespace LexicalModel

/-! ### What was read before -/

section Prepare

variable {σ : Type} [FileSystem σ] {s : σ} {r : BuildRequest σ} {p : Prepared}

/-- Where the build takes place, and what the author says about the model. -/
theorem gathered_of_prepare (h : (prepare s r).1 = .ok p) :
    Layout.ofBuildDir r.buildDir = .ok p.layout ∧
      ModelInfo.load s (p.layout.infoPath p.identity.id) = .ok p.info := by
  obtain ⟨source, hgather, -⟩ := prepare_ok h
  obtain ⟨hl, -, hinfo, -⟩ := gather_ok hgather
  exact ⟨hl, hinfo⟩

end Prepare

/-! ### The manifest -/

theorem Store.readText_of_get? {s : Store} {p : Path} {text : String}
    (h : s.get? p = some (Text.Utf8.encode text)) : FileSystem.readText s p = .ok text := by
  rw [FileSystem.readText, Store.read_of_get? h, ok_bind, Text.Utf8.decode_encode]
  rfl

namespace ModelInfo

theorem carried_of_load {s : Store} {p : Path} {m : ModelInfo} (h : load s p = .ok m) :
    Json.Carried keys (Json.maxDepth - 1) m.extra := by
  obtain ⟨text, -, h⟩ := ok_of_bind h
  have hdecode := Result.ok_of_ofCause (Result.ok_of_within h)
  obtain ⟨m', hm', hdecode⟩ := ok_of_bind hdecode
  split at hdecode
  · cases hdecode
    exact carried_of_decoder hm'
  · cases hdecode

/-- A file that holds a published record is read as that record. -/
theorem load_of_get? {s : Store} {p : Path} {m : ModelInfo}
    (h : s.get? p = some (Text.Utf8.encode m.render)) (hm : m.IsReadable)
    (hwhole : ∀ e ∈ m.extra, e.2.IsWhole) : load s p = .ok m := by
  rw [load, Store.readText_of_get? h, ok_bind, decodeText_render hm hwhole]
  rfl

end ModelInfo

/-! ### The files of a build -/

/-- What holds of the files of a build that was prepared as `p` and made the package of `b`: `s`
holds the files before it, `s'` those after it, and `o` is what it has made. -/
structure Artifacts (r : BuildRequest Store) (p : Prepared) (b : Bundle) (o : BuildOutcome)
    (s s' : Store) : Prop where
  /-- The script is the one that was generated. -/
  script : s'.get? o.scriptPath = some (Text.Utf8.encode p.generated.script)
  /-- The package is the archive of its entries. -/
  archive : r.archive b.package.entries = .ok b.archive ∧
    s'.get? o.packagePath = some b.archive
  /-- The manifest is what the outcome says, as it is published. -/
  manifest : s'.get? o.manifestPath = some (Text.Utf8.encode o.modelInfo.render)
  /-- The recorded size of the script is the size of its file. -/
  scriptSize : o.modelInfo.jsFileSize = (s'.get? o.scriptPath).map ByteArray.size
  /-- The recorded size of the package is the size of its file. -/
  packageSize : o.modelInfo.packageFileSize = (s'.get? o.packagePath).map ByteArray.size
  /-- Fonts are recorded just where the package has some. -/
  fonts :
    o.modelInfo.packageIncludes = some ["fonts"] ∧
        (∃ e ∈ b.package.entries, EndsAsFont e.name) ∨
      o.modelInfo.packageIncludes = some [] ∧ ¬∃ e ∈ b.package.entries, EndsAsFont e.name
  /-- The manifest reads as what the outcome says, if the sizes fit into 64 bits and the members
  that the library does not know have no other numbers than whole ones. -/
  load : (∀ n, o.modelInfo.jsFileSize = some n → n ≤ Json.maxUnsigned) →
    (∀ n, o.modelInfo.packageFileSize = some n → n ≤ Json.maxUnsigned) →
    (∀ e ∈ o.modelInfo.extra, e.2.IsWhole) → ModelInfo.load s' o.manifestPath = .ok o.modelInfo
  /-- The three files and the author's info file are four different files. -/
  distinct : [o.scriptPath, o.packagePath, o.manifestPath,
    p.layout.infoPath p.identity.id].Pairwise fun q q' => q.components ≠ q'.components
  /-- No other file is touched. -/
  others : ∀ q : Path, (∀ q' ∈ [o.scriptPath, o.packagePath, o.manifestPath],
    q'.components ≠ q.components) → s'.file? q = s.file? q

namespace Prepared

variable (p : Prepared) (s : Store) (r : BuildRequest Store) (b : Bundle)

theorem scriptPath_ne_packagePath : p.scriptPath.components ≠ p.packagePath.components :=
  Layout.scriptPath_ne_packagePath p.layout p.identity.id

theorem scriptPath_ne_manifestPath : p.scriptPath.components ≠ p.manifestPath.components :=
  Layout.scriptPath_ne_manifestPath p.layout p.identity.id

theorem packagePath_ne_manifestPath : p.packagePath.components ≠ p.manifestPath.components :=
  Layout.packagePath_ne_manifestPath p.layout p.identity.id

theorem get?_manifestPath : (p.withManifest s r b).get? p.manifestPath =
    some (Text.Utf8.encode (p.manifest r b).render) :=
  Store.get?_insert_self _ _ _

theorem get?_packagePath : (p.withManifest s r b).get? p.packagePath = some b.archive := by
  rw [withManifest, Store.get?_insert_of_ne _ _ p.packagePath_ne_manifestPath.symm]
  exact Store.get?_insert_self _ _ _

theorem get?_scriptPath : (p.withManifest s r b).get? p.scriptPath = some p.scriptBytes := by
  rw [withManifest, Store.get?_insert_of_ne _ _ p.scriptPath_ne_manifestPath.symm, withPackage,
    Store.get?_insert_of_ne _ _ p.scriptPath_ne_packagePath.symm]
  exact Store.get?_insert_self _ _ _

theorem file?_withManifest {q : Path} (hscript : p.scriptPath.components ≠ q.components)
    (hpackage : p.packagePath.components ≠ q.components)
    (hmanifest : p.manifestPath.components ≠ q.components) :
    (p.withManifest s r b).file? q = s.file? q := by
  rw [withManifest, Store.file?_insert_of_ne _ _ hmanifest, withPackage,
    Store.file?_insert_of_ne _ _ hpackage, withScript, Store.file?_insert_of_ne _ _ hscript]

variable {p s r b}

theorem infoPath_ne (h : (prepare s r).1 = .ok p) {q : Path}
    (hq : q ∈ [p.scriptPath, p.packagePath, p.manifestPath]) :
    q.components ≠ (p.layout.infoPath p.identity.id).components := by
  have hlayout := (gathered_of_prepare h).1
  simp only [List.mem_cons, List.not_mem_nil, or_false] at hq
  rcases hq with rfl | rfl | rfl
  · exact Layout.infoPath_ne hlayout (Layout.components_scriptPath _ _)
  · exact Layout.infoPath_ne hlayout (Layout.components_packagePath _ _)
  · exact Layout.infoPath_ne hlayout (Layout.components_manifestPath _ _)

/-- What the manifest carries along was read before. -/
theorem carried_manifest (h : (prepare s r).1 = .ok p) :
    Json.Carried ModelInfo.keys (Json.maxDepth - 1) (p.manifest r b).extra := by
  have hextra : (p.manifest r b).extra = p.info.extra := rfl
  rw [hextra]
  exact ModelInfo.carried_of_load (gathered_of_prepare h).2

theorem packageIncludes_of_bundle {s : Store} {l : Layout} {id : Identifier}
    {archive : Archiver} (h : bundle s archive l id = .ok b) :
    (p.manifest r b).packageIncludes = some ["fonts"] ∧
        (∃ e ∈ b.package.entries, EndsAsFont e.name) ∨
      (p.manifest r b).packageIncludes = some [] ∧
        ¬∃ e ∈ b.package.entries, EndsAsFont e.name := by
  obtain ⟨text, -, hcompile, -⟩ := bundle_ok h
  exact (packageIncludes_compile hcompile).imp
    (And.imp_left (congrArg some)) (And.imp_left (congrArg some))

theorem artifacts (hprepare : (prepare s r).1 = .ok p)
    (hbundle : bundle (p.withScript s) r.archive p.layout p.identity.id = .ok b) :
    Artifacts r p b (p.outcome r b) s (p.withManifest s r b) := by
  rw [outcome]
  -- the paths of the outcome are taken out of it before any of them is looked into
  constructor <;> dsimp only
  case script => exact p.get?_scriptPath s r b
  case archive =>
    obtain ⟨-, -, -, harchive⟩ := bundle_ok hbundle
    exact ⟨harchive, p.get?_packagePath s r b⟩
  case manifest => exact p.get?_manifestPath s r b
  case scriptSize => exact congrArg (Option.map ByteArray.size) (p.get?_scriptPath s r b).symm
  case packageSize => exact congrArg (Option.map ByteArray.size) (p.get?_packagePath s r b).symm
  case fonts => exact packageIncludes_of_bundle hbundle
  case load =>
    intro hscript hpackage hwhole
    exact ModelInfo.load_of_get? (p.get?_manifestPath s r b)
      ⟨hpackage, hscript, carried_manifest hprepare⟩ hwhole
  case distinct =>
    have hinfo : ∀ q ∈ [p.scriptPath, p.packagePath, p.manifestPath],
        q.components ≠ (p.layout.infoPath p.identity.id).components :=
      fun q hq => infoPath_ne hprepare hq
    simp only [List.forall_mem_cons] at hinfo
    obtain ⟨hscript, hpackage, hmanifest, -⟩ := hinfo
    simp [p.scriptPath_ne_packagePath, p.scriptPath_ne_manifestPath,
      p.packagePath_ne_manifestPath, hscript, hpackage, hmanifest]
  case others =>
    intro q hq
    simp only [List.forall_mem_cons] at hq
    exact p.file?_withManifest s r b hq.1 hq.2.1 hq.2.2.1

end Prepared

/-- **A build that succeeds leaves its artifacts and touches nothing else.** -/
theorem build_leaves_artifacts {s s' : Store} {r : BuildRequest Store} {o : BuildOutcome}
    (hkeep : r.tools.transpiler.KeepsFiles) (h : build s r = (.ok o, s')) :
    ∃ p b, (prepare s r).1 = .ok p ∧
      bundle (p.withScript s) r.archive p.layout p.identity.id = .ok b ∧
      o.scriptPath = p.layout.scriptPath p.identity.id ∧
      o.packagePath = p.layout.packagePath p.identity.id ∧
      o.manifestPath = p.layout.manifestPath p.identity.id ∧
      Artifacts r p b o s s' := by
  obtain ⟨p, b, hprepare, hbundle, rfl, rfl⟩ := build_ok h
  rw [prepare_state s hkeep] at hbundle ⊢
  refine ⟨p, b, hprepare, hbundle, ?_, ?_, ?_, Prepared.artifacts hprepare hbundle⟩
  · rw [Prepared.outcome, Prepared.scriptPath]
  · rw [Prepared.outcome, Prepared.packagePath]
  · rw [Prepared.outcome, Prepared.manifestPath]

/-- A package project with a font. -/
def fontProject : String :=
  "<Package><Files><File><Name>F.TTF</Name></File></Files><LexicalModels><LexicalModel>" ++
  "<ID>a.b.c</ID></LexicalModel></LexicalModels></Package>"

/-- A model with a font in its package, and a number that the library does not know in its info. -/
def fontStore : Store :=
  ((Store.empty.insert (.ofText "/g/a/b.c/a.b.c.model_info")
        (Text.Utf8.encode "\x7b\"rank\":7\x7d")).insert
      (.ofText "/g/a/b.c/source/a.b.c.model.kps") (Text.Utf8.encode fontProject)).insert
    (.ofText "/g/a/b.c/source/F.TTF") (Text.Utf8.encode "glyphs")

/-- The build of a custom model into a listing of its package. -/
def listingRequest : BuildRequest Store := { customRequest with archive := Archive.listing }

theorem build_leaves_font_artifacts :
    ∃ o s', build fontStore listingRequest = (.ok o, s') ∧
      o.modelInfo.packageIncludes = some ["fonts"] ∧
      ModelInfo.load s' o.manifestPath = .ok o.modelInfo := by
  have hok : (build fontStore listingRequest).1.toOption.map (fun o =>
      (o.modelInfo.packageIncludes, o.modelInfo.jsFileSize, o.modelInfo.packageFileSize,
        o.modelInfo.extra.flatMap fun e => e.2.numbers)) =
      some (some ["fonts"], some 112, some 248, [.int 7]) := by
    decide +kernel
  obtain ⟨o, ho, hfacts⟩ := Option.map_eq_some_iff.1 hok
  simp only [Prod.mk.injEq] at hfacts
  obtain ⟨hfonts, hscript, hpackage, hnumbers⟩ := hfacts
  have hend := Result.ok_of_toOption ho
  obtain ⟨p, b, -, -, -, -, -, hartifacts⟩ :=
    build_leaves_artifacts (fun _ _ => rfl) hend
  refine ⟨o, _, hend, hfonts, hartifacts.load ?_ ?_ ?_⟩
  · intro n hn
    cases hscript.symm.trans hn
    decide
  · intro n hn
    cases hpackage.symm.trans hn
    decide
  · intro e he n hn
    have hmem : n ∈ o.modelInfo.extra.flatMap fun e => e.2.numbers :=
      List.mem_flatMap.2 ⟨e, he, hn⟩
    rw [hnumbers, List.mem_singleton] at hmem
    subst hmem
    decide

end LexicalModel
