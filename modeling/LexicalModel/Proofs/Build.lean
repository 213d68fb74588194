import LexicalModel.Build
import LexicalModel.Proofs.Failure
import LexicalModel.Proofs.FileSystem
import LexicalModel.Proofs.Layout
import LexicalModel.Proofs.Packing

/-!
# What a build does

A build writes its files one after the other.  Everything before the first write leaves the files as
they are, provided that the transpiler does; and what can fail between the writes is the package
alone.  `build_cases` says so once for all that follows.

* `Transpiler.KeepsFiles` : a transpiler that writes no files
* `build_ends` : the ways in which a build can end, and the files after each of them
* `build_cases` : the same for a transpiler that writes no files
* `build_ok` : what a build that succeeds has made
* `build_result`, `build_state` : what a build returns and what it writes
* `failing_build_publishes_nothing` : a build that fails leaves package and manifest as they were
-/

namespace LexicalModel

open Result (andThen andThen_state andThen_invariant Ordinary)

/-! ### Before the first write -/

section Keeps

variable {σ : Type}

/-- The transpiler leaves the place where files are kept as it is. -/
def Transpiler.KeepsFiles (t : Transpiler σ) : Prop := ∀ source s, (t source s).2 = s

theorem Transpiler.texts_state {t : Transpiler σ} (h : t.KeepsFiles) (sources : List SourceFile)
    (s : σ) : (t.texts sources s).2 = s := by
  induction sources with
  | nil => rfl
  | cons source rest ih =>
    refine andThen_state (h source s) fun text => ?_
    exact andThen_state ih fun texts => rfl

theorem Transpiler.all_state {t : Transpiler σ} (h : t.KeepsFiles) (sources : List SourceFile)
    (s : σ) : (t.all sources s).2 = s :=
  andThen_state (texts_state h sources s) fun _ => rfl

variable [FileSystem σ]

theorem emitWordBreaker_files {t : Transpiler σ} (h : t.KeepsFiles) (l : Layout) (e : Emission σ) :
    (emitWordBreaker l t e).2.files = e.files := by
  unfold emitWordBreaker
  split
  · refine andThen_invariant (P := (Emission.files · = e.files)) rfl fun rootClass e₁ h₁ => ?_
    refine andThen_invariant (P := (Emission.files · = e.files)) h₁ fun files e₂ h₂ => ?_
    have htranspile : (e₂.transpile t files).2.files = e.files :=
      (Transpiler.all_state h files e₂.files).trans h₂
    exact andThen_invariant (P := (Emission.files · = e.files)) htranspile fun code e₃ h₃ => h₃
  · rfl

theorem emitDeclared_state {t : Transpiler σ} (h : t.KeepsFiles) (s : σ) (l : Layout)
    (script : Script) (declared : Option WordBreaking) :
    (emitDeclared s l t script declared).2 = s := by
  cases declared with
  | none => rfl
  | some w => exact emitWordBreaker_files h l ⟨w, script, s⟩

theorem emitModel_state {tools : Tools σ} (h : tools.transpiler.KeepsFiles) (s : σ) (l : Layout)
    (m : ModelSource) (script : Script) (format : ModelFormat) :
    (emitModel s l tools m script format).2 = s := by
  cases format with
  | custom =>
    refine andThen_state rfl fun rootClass => ?_
    refine andThen_state rfl fun files => ?_
    exact andThen_state (Transpiler.all_state h files s) fun code => rfl
  | fstFoma => rfl
  | trie => rfl

theorem generate_state {tools : Tools σ} (h : tools.transpiler.KeepsFiles) (s : σ) (l : Layout)
    (id : Identifier) (m : ModelSource) : (generate s l id m tools).2 = s := by
  refine andThen_state rfl fun format => ?_
  refine andThen_state (emitModel_state h s l m {} format) fun script => ?_
  exact andThen_state (emitDeclared_state h s l script m.wordBreaking) fun _ => rfl

theorem prepare_state (s : σ) {r : BuildRequest σ} (h : r.tools.transpiler.KeepsFiles) :
    (prepare s r).2 = s := by
  refine andThen_state rfl fun ⟨l, identity, info, source⟩ => ?_
  exact andThen_state (generate_state h s l identity.id source) fun generated => rfl

/-! ### What is known before the first write -/

theorem gather_ok {s : σ} {r : BuildRequest σ} {l : Layout} {i : Identity} {info : ModelInfo}
    {source : ModelSource} (h : gather s r = .ok (l, i, info, source)) :
    Layout.ofBuildDir r.buildDir = .ok l ∧ Identity.resolve s l = .ok i ∧
      ModelInfo.load s (l.infoPath i.id) = .ok info ∧ r.input.load s l i.id = .ok source := by
  obtain ⟨l, hl, h⟩ := ok_of_bind h
  obtain ⟨i, hi, h⟩ := ok_of_bind h
  obtain ⟨info, hinfo, h⟩ := ok_of_bind h
  obtain ⟨source, hsource, h⟩ := ok_of_bind h
  cases h
  exact ⟨hl, hi, hinfo, hsource⟩

theorem prepare_ok {s : σ} {r : BuildRequest σ} {p : Prepared} (h : (prepare s r).1 = .ok p) :
    ∃ source, gather s r = .ok (p.layout, p.identity, p.info, source) ∧
      (generate s p.layout p.identity.id source r.tools).1 = .ok p.generated := by
  obtain ⟨⟨l, identity, info, source⟩, hgather, h⟩ := Result.ok_of_andThen h
  obtain ⟨generated, hgenerated, h⟩ := Result.ok_of_andThen h
  cases h
  exact ⟨source, hgather, hgenerated⟩

end Keeps

/-! ### The writes -/

namespace Prepared

variable (p : Prepared)

/-- Where the script is written. -/
def scriptPath : Path := p.layout.scriptPath p.identity.id

/-- Where the package is written. -/
def packagePath : Path := p.layout.packagePath p.identity.id

/-- Where the manifest is written. -/
def manifestPath : Path := p.layout.manifestPath p.identity.id

/-- The script as it is written. -/
def scriptBytes : ByteArray := Text.Utf8.encode p.generated.script

/-- The store once the script is written. -/
def withScript (s : Store) : Store := s.insert p.scriptPath p.scriptBytes

/-- The manifest of the build, given what the package is. -/
def manifest (r : BuildRequest Store) (b : Bundle) : ModelInfo :=
  p.info.merge
    { id := p.identity.id, location := p.identity.location, package := b.package.descriptor,
      packageFileSize := b.archive.size, jsFileSize := p.scriptBytes.size, now := r.now,
      config := r.config }

/-- The store once script and package are written. -/
def withPackage (s : Store) (b : Bundle) : Store :=
  (p.withScript s).insert p.packagePath b.archive

/-- The store once everything is written. -/
def withManifest (s : Store) (r : BuildRequest Store) (b : Bundle) : Store :=
  (p.withPackage s b).insert p.manifestPath (Text.Utf8.encode (p.manifest r b).render)

/-- What is written, given what becomes of the package. -/
def writes (r : BuildRequest Store) : Result Bundle → List (Path × ByteArray)
  | .error _ => [(p.scriptPath, p.scriptBytes)]
  | .ok b =>
    [(p.scriptPath, p.scriptBytes), (p.packagePath, b.archive),
      (p.manifestPath, Text.Utf8.encode (p.manifest r b).render)]

/-- What the build has made. -/
def outcome (r : BuildRequest Store) (b : Bundle) : BuildOutcome :=
  ⟨p.identity, p.scriptPath, p.packagePath, p.manifestPath, p.manifest r b⟩

end Prepared

/-- The sizes in the manifest are those of the files just written, so this step cannot fail. -/
theorem conclude_withPackage (s : Store) (r : BuildRequest Store) (p : Prepared) (b : Bundle) :
    conclude (p.withPackage s b) r p b.package.descriptor = .ok (p.manifest r b) := by
  have hpackage : FileSystem.fileSize (p.withPackage s b)
      (p.layout.packagePath p.identity.id) = .ok b.archive.size :=
    Store.fileSize_of_get? (Store.get?_insert_self _ _ _)
  have hscript : FileSystem.fileSize (p.withPackage s b)
      (p.layout.scriptPath p.identity.id) = .ok p.scriptBytes.size := by
    refine Store.fileSize_of_get? ?_
    rw [Prepared.withPackage, Store.get?_insert_of_ne]
    · exact Store.get?_insert_self _ _ _
    · exact (Layout.scriptPath_ne_packagePath _ _).symm
  rw [conclude, hpackage, hscript]
  rfl

/-- **The ways in which a build can end**, with the files that it has written by then; the
transpiler may have written some before. -/
theorem build_ends (s : Store) (r : BuildRequest Store) :
    (∃ f, (prepare s r).1 = .error f ∧ build s r = (.error f, (prepare s r).2)) ∨
    (∃ p f, (prepare s r).1 = .ok p ∧
      bundle (p.withScript (prepare s r).2) r.archive p.layout p.identity.id = .error f ∧
      build s r = (.error f, p.withScript (prepare s r).2)) ∨
    ∃ p b, (prepare s r).1 = .ok p ∧
      bundle (p.withScript (prepare s r).2) r.archive p.layout p.identity.id = .ok b ∧
      build s r = (.ok (p.outcome r b), p.withManifest (prepare s r).2 r b) := by
  generalize hprepare : prepare s r = prepared
  obtain ⟨first, s₁⟩ := prepared
  cases first with
  | error f =>
    refine .inl ⟨f, rfl, ?_⟩
    rw [build, hprepare]
    rfl
  | ok p =>
    right
    -- the script is written before the package is made
    cases hbundle : bundle (p.withScript s₁) r.archive p.layout p.identity.id with
    | error f =>
      refine .inl ⟨p, f, rfl, hbundle, ?_⟩
      rw [build, hprepare]
      change andThen (bundle (p.withScript s₁) r.archive p.layout p.identity.id,
        p.withScript s₁) _ = _
      rw [hbundle]
      rfl
    | ok b =>
      refine .inr ⟨p, b, rfl, hbundle, ?_⟩
      rw [build, hprepare]
      change andThen (bundle (p.withScript s₁) r.archive p.layout p.identity.id,
        p.withScript s₁) _ = _
      rw [hbundle]
      change andThen (conclude (p.withPackage s₁ b) r p b.package.descriptor,
        p.withPackage s₁ b) _ = _
      rw [conclude_withPackage]
      rfl

/-- A build that succeeds has made its outcome of what it prepared and of the package. -/
theorem build_ok {s s' : Store} {r : BuildRequest Store} {o : BuildOutcome}
    (h : build s r = (.ok o, s')) :
    ∃ p b, (prepare s r).1 = .ok p ∧
      bundle (p.withScript (prepare s r).2) r.archive p.layout p.identity.id = .ok b ∧
      o = p.outcome r b ∧ s' = p.withManifest (prepare s r).2 r b := by
  rcases build_ends s r with ⟨f, -, hbuild⟩ | ⟨p, f, -, -, hbuild⟩ |
    ⟨p, b, hprepare, hbundle, hbuild⟩
  · cases hbuild.symm.trans h
  · cases hbuild.symm.trans h
  · obtain ⟨ho, rfl⟩ := Prod.mk.inj (hbuild.symm.trans h)
    exact ⟨p, b, hprepare, hbundle, (Except.ok.inj ho).symm, rfl⟩

theorem build_cases (s : Store) (r : BuildRequest Store)
    (hkeep : r.tools.transpiler.KeepsFiles) :
    (∃ f, (prepare s r).1 = .error f ∧ build s r = (.error f, s)) ∨
    (∃ p f, (prepare s r).1 = .ok p ∧
      bundle (p.withScript s) r.archive p.layout p.identity.id = .error f ∧
      build s r = (.error f, p.withScript s)) ∨
    ∃ p b, (prepare s r).1 = .ok p ∧
      bundle (p.withScript s) r.archive p.layout p.identity.id = .ok b ∧
      build s r = (.ok (p.outcome r b), p.withManifest s r b) := by
  have hends := build_ends s r
  rw [prepare_state s hkeep] at hends
  exact hends

/-- What a build writes, in order. -/
def BuildRequest.writes (r : BuildRequest Store) (s : Store) : List (Path × ByteArray) :=
  match (prepare s r).1 with
  | .error _ => []
  | .ok p => p.writes r (bundle (p.withScript s) r.archive p.layout p.identity.id)

section Kept

variable (s : Store) {r : BuildRequest Store} (hkeep : r.tools.transpiler.KeepsFiles)
include hkeep

theorem build_result : (build s r).1 = do
    let p ← (prepare s r).1
    let b ← bundle (p.withScript s) r.archive p.layout p.identity.id
    return p.outcome r b := by
  rcases build_cases s r hkeep with ⟨f, hprepare, hbuild⟩ | ⟨p, f, hprepare, hbundle, hbuild⟩ |
    ⟨p, b, hprepare, hbundle, hbuild⟩
  · rw [hbuild, hprepare]
    rfl
  · rw [hbuild, hprepare, ok_bind, hbundle]
    rfl
  · rw [hbuild, hprepare, ok_bind, hbundle]
    rfl

theorem build_state : (build s r).2 = s.insertAll (r.writes s) := by
  rcases build_cases s r hkeep with ⟨f, hprepare, hbuild⟩ | ⟨p, f, hprepare, hbundle, hbuild⟩ |
    ⟨p, b, hprepare, hbundle, hbuild⟩
  · simp only [hbuild, BuildRequest.writes, hprepare, Store.insertAll_nil]
  · simp only [hbuild, BuildRequest.writes, hprepare, hbundle]
    simp only [Prepared.writes, Store.insertAll_cons, Store.insertAll_nil, Prepared.withScript]
  · simp only [hbuild, BuildRequest.writes, hprepare, hbundle]
    simp only [Prepared.writes, Store.insertAll_cons, Store.insertAll_nil, Prepared.withManifest,
      Prepared.withPackage, Prepared.withScript]

end Kept

/-! ### Failures between the writes -/

namespace PackageProject

theorem readFile_ordinary (e : Markup.Element) : ErrorIs Cause.IsOrdinary (readFile e) := by
  unfold readFile
  split
  · exact errorIs_ok _ _
  · exact errorIs_error rfl

theorem readLanguage_ordinary (model : String) (e : Markup.Element) :
    ErrorIs Cause.IsOrdinary (readLanguage model e) := by
  unfold readLanguage
  split
  · exact errorIs_ok _ _
  · exact errorIs_error rfl

theorem readModel_ordinary (e : Markup.Element) : ErrorIs Cause.IsOrdinary (readModel e) := by
  unfold readModel
  split
  · exact errorIs_error rfl
  · dsimp only
    split
    · refine ErrorIs.bind ?_ fun languages => errorIs_ok _ _
      exact ErrorIs.mapM fun l _ => readLanguage_ordinary _ l
    · exact errorIs_ok _ _

theorem readSection_ordinary {α : Type} {sectionTag itemTag : String}
    {read : Markup.Element → Except Cause α} (h : ∀ e, ErrorIs Cause.IsOrdinary (read e))
    (cs : List Char) : ErrorIs Cause.IsOrdinary (readSection sectionTag itemTag read cs) := by
  unfold readSection
  split
  · exact ErrorIs.mapM fun e _ => h e
  · exact errorIs_ok _ _

theorem parse_ordinary (text : String) : ErrorIs Cause.IsOrdinary (parse text) := by
  unfold parse
  split
  · exact errorIs_error rfl
  · refine (readSection_ordinary readFile_ordinary _).bind fun files => ?_
    refine (readSection_ordinary readModel_ordinary _).bind fun models => ?_
    exact errorIs_ok _ _

end PackageProject

theorem CompiledPackage.collect_ordinary (s : Store) (base : Path) (taken : List String)
    (files : List ProjectFile) : Ordinary (collect s base taken files) := by
  induction files generalizing taken with
  | nil => exact errorIs_ok _ _
  | cons f fs ih =>
    have hname : Ordinary (entryName taken f) := by
      unfold entryName
      dsimp only
      split
      · exact Result.ordinary_fail rfl
      · exact errorIs_ok _ _
    refine hname.bind fun name => ?_
    refine ((OrdinaryFiles.read_ordinary s _).within _).bind fun bytes => ?_
    exact (ih _).bind fun rest => errorIs_ok _ _

theorem CompiledPackage.compile_ordinary (s : Store) (path : Path) (text : String) :
    Ordinary (compile s path text) := by
  refine ((Result.ordinary_ofCause (PackageProject.parse_ordinary text)).within _).bind
    fun project => ?_
  dsimp only
  split
  · have hfail : Ordinary (Result.fail (.noLexicalModels path) : Result PUnit) :=
      Result.ordinary_fail rfl
    refine hfail.bind fun _ => ?_
    exact (collect_ordinary s _ [] _).bind fun entries => errorIs_ok _ _
  · exact (collect_ordinary s _ [] _).bind fun entries => errorIs_ok _ _

/-- What there is to a package that was made and archived. -/
theorem bundle_ok {s : Store} {archive : Archiver} {l : Layout} {id : Identifier} {b : Bundle}
    (h : bundle s archive l id = .ok b) :
    ∃ text, FileSystem.readText s (l.packageSourcePath id) = .ok text ∧
      CompiledPackage.compile s (l.packageSourcePath id) text = .ok b.package ∧
      archive b.package.entries = .ok b.archive := by
  obtain ⟨text, htext, h⟩ := ok_of_bind h
  obtain ⟨package, hcompile, h⟩ := ok_of_bind h
  obtain ⟨archived, harchive, h⟩ := ok_of_bind h
  cases h
  exact ⟨text, htext, hcompile, harchive⟩

/-- The names in a package are distinct, so the archiver has no say in what is reported. -/
theorem bundle_ordinary {archive : Archiver} (harchive : archive.TakesDistinct) (s : Store)
    (l : Layout) (id : Identifier) : Ordinary (bundle s archive l id) := by
  refine (readText_ordinary s _).bind fun text => ?_
  cases hcompile : CompiledPackage.compile s (l.packageSourcePath id) text with
  | error f => exact errorIs_error (CompiledPackage.compile_ordinary s _ text f hcompile)
  | ok package =>
    obtain ⟨bytes, hbytes⟩ := harchive _ (CompiledPackage.nodup_names hcompile)
    rw [ok_bind, hbytes]
    exact errorIs_ok _ _

/-! ### Builds that fail -/

/-- **A build that fails publishes nothing.**  The files of the package and the manifest stay as
they were, and so does every other file but the script; the script is replaced just where the new
one was generated; and where the fault lies in the model itself, nothing is touched at all, if the
archiver takes entries of distinct names. -/
theorem failing_build_publishes_nothing {s s' : Store} {r : BuildRequest Store} {f : Failure}
    (hkeep : r.tools.transpiler.KeepsFiles) (h : build s r = (.error f, s')) :
    (Archiver.TakesDistinct r.archive → f.kind ≠ .other → s' = s) ∧
      ((∀ p, (prepare s r).1 ≠ .ok p) → s' = s) ∧
      ∀ p, (prepare s r).1 = .ok p →
        s'.get? p.scriptPath = some (Text.Utf8.encode p.generated.script) ∧
        (∀ q, p.scriptPath.components ≠ q.components → s'.file? q = s.file? q) ∧
        s'.file? p.packagePath = s.file? p.packagePath ∧
        s'.file? p.manifestPath = s.file? p.manifestPath := by
  rcases build_cases s r hkeep with ⟨g, hprepare, hbuild⟩ | ⟨p, g, hprepare, hbundle, hbuild⟩ |
    ⟨p, b, hprepare, hbundle, hbuild⟩
  · obtain ⟨-, rfl⟩ := Prod.mk.inj (hbuild.symm.trans h)
    refine ⟨fun _ _ => rfl, fun _ => rfl, fun p hp => ?_⟩
    cases hprepare.symm.trans hp
  · -- only the package has failed, which is never a fault of the model, and the script is there
    obtain ⟨hf, rfl⟩ := Prod.mk.inj (hbuild.symm.trans h)
    cases hf
    refine ⟨fun harchive hkind => absurd (bundle_ordinary harchive _ _ _ _ hbundle) hkind,
      fun hnone => absurd hprepare (hnone p), fun p' hp' => ?_⟩
    cases hprepare.symm.trans hp'
    have hothers : ∀ q, p.scriptPath.components ≠ q.components →
        (p.withScript s).file? q = s.file? q := fun q hq => Store.file?_insert_of_ne s _ hq
    exact ⟨Store.get?_insert_self _ _ _, hothers,
      hothers _ (Layout.scriptPath_ne_packagePath _ _),
      hothers _ (Layout.scriptPath_ne_manifestPath _ _)⟩
  · cases hbuild.symm.trans h

/-- A model without package project, beside what an earlier build has left of its package. -/
def staleStore : Store :=
  (Store.empty.insert (.ofText "/g/a/b.c/a.b.c.model_info") (Text.Utf8.encode "\x7b\x7d")).insert
    (.ofText "/g/a/b.c/build/a.b.c.model.kmp") (Text.Utf8.encode "stale")

/-- The build of a custom model without sources. -/
def customRequest : BuildRequest Store where
  buildDir := .ofText "/g/a/b.c/build"
  input := .loaded { format := "custom-1.0", rootClass := some "M" }
  now := ⟨0, 0⟩
  tools := ⟨Transpiler.passThrough, Trie.literal Trie.defaultMaxLeaf⟩
  archive := Archive.zip

theorem failing_build_keeps_stale_package :
    ∃ f s', build staleStore customRequest = (.error f, s') ∧ f.kind = .other ∧
      s'.get? (.ofText "/g/a/b.c/build/a.b.c.model.kmp") = some (Text.Utf8.encode "stale") := by
  have hpaths : (prepare staleStore customRequest).1.toOption.map
      (fun p => (p.scriptPath, p.packagePath)) =
      some (.ofText "/g/a/b.c/build/a.b.c.model.js",
        .ofText "/g/a/b.c/build/a.b.c.model.kmp") := by
    decide +kernel
  have hnone : (build staleStore customRequest).1.toOption.isNone = true := by
    decide +kernel
  obtain ⟨p, hp, hpaths⟩ := Option.map_eq_some_iff.1 hpaths
  obtain ⟨hscript, hpackage⟩ := Prod.mk.inj hpaths
  obtain ⟨f, hend⟩ := Result.error_of_toOption hnone
  obtain ⟨huntouched, -, hkept⟩ := failing_build_publishes_nothing (fun _ _ => rfl) hend
  obtain ⟨hwritten, -, hsame, -⟩ := hkept p (congrArg Prod.fst (Result.ok_of_toOption hp))
  refine ⟨f, _, hend, ?_, ?_⟩
  · -- any other fault would have left the store without the script
    by_contra hkind
    rw [huntouched (Archive.archiveAs_takesDistinct _) hkind, hscript] at hwritten
    have hmissing : staleStore.contains (.ofText "/g/a/b.c/build/a.b.c.model.js") = false := by
      decide +kernel
    rw [Store.contains_eq_isSome, hwritten] at hmissing
    cases hmissing
  · rw [hpackage] at hsame
    rw [Store.get?_eq_map_file?, hsame, ← Store.get?_eq_map_file?]
    exact Store.get?_insert_self _ _ _

end LexicalModel
