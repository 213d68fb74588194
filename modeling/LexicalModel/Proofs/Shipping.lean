import LexicalModel.Proofs.Inputs
import LexicalModel.Proofs.Location
import LexicalModel.Proofs.Path.Reference

/-!
# The script in the package

A package lists the script of its model like any other file, by a reference from where its project
is.  The script is written before the files of the package are read, so what is archived is the
script of the same build, even if an older one was there.  And the usual reference, up from the
sources and down into the build directory, denotes just the file that the script is written to.

* `bundle_entries` : the project of a package that was made, and the entries of the listed files
* `Prepared.entry_of_script` : the entry of a listed script
* `Layout.sourceFile_scriptReference` : the usual reference denotes the script
* `package_ships_generated_script` : both together
-/

namespace LexicalModel

/-! ### The script among the files of a package -/

section Entries

variable {s : Store} {l : Layout} {id : Identifier} {archive : Archiver} {b : Bundle}

/-- A package that was made: its project, and the entry of each file that the project lists. -/
theorem bundle_entries (h : bundle s archive l id = .ok b) :
    ∃ project, packageProject? s l id = some project ∧
      ∀ (n : Nat) (f : ProjectFile), project.files[n]? = some f →
        ∃ bytes, b.package.entries[n]? = some ⟨Reference.fileName f.source, bytes⟩ ∧
          s.get? (l.sourceFile f.source) = some bytes := by
  obtain ⟨text, htext, hcompile, -⟩ := bundle_ok h
  obtain ⟨project, entries, hparse, -, hentries, hpackage⟩ := CompiledPackage.compile_ok hcompile
  refine ⟨project, ?_, fun n f hf => ?_⟩
  · rw [packageProject?, htext]
    simp only [Except.toOption, Option.bind_some, hparse]
  · have hcollect := CompiledPackage.collect_ok hentries
    obtain ⟨hn, rfl⟩ := List.getElem?_eq_some_iff.1 hf
    have hn' : n < entries.length := by
      rw [hcollect.length_eq]
      exact hn
    have hentry := hcollect.get hn' hn
    have hbytes := hentry.bytes
    refine ⟨entries[n].bytes, ?_, ?_⟩
    · rw [hpackage, CompiledPackage.packageOf, List.getElem?_append_left hn',
        List.getElem?_eq_getElem hn']
      exact congrArg (fun name => some (ArchiveEntry.mk name entries[n].bytes)) hentry.fileName
    · rw [Layout.resolve_packageSourcePath] at hbytes
      exact Store.get?_of_read hbytes

/-- **A listed script is the one that was just written.** -/
theorem Prepared.entry_of_script {p : Prepared}
    (h : bundle (p.withScript s) archive p.layout p.identity.id = .ok b) :
    ∃ project, packageProject? s p.layout p.identity.id = some project ∧
      ∀ (n : Nat) (f : ProjectFile), project.files[n]? = some f →
        (p.layout.sourceFile f.source).components = p.scriptPath.components →
        b.package.entries[n]? = some ⟨Reference.fileName f.source, p.scriptBytes⟩ := by
  obtain ⟨project, hproject, hentries⟩ := bundle_entries h
  refine ⟨project, ?_, fun n f hf hscript => ?_⟩
  · rw [packageProject?_congr (p.get?_packageSourcePath s)] at hproject
    exact hproject
  · obtain ⟨bytes, hentry, hbytes⟩ := hentries n f hf
    rw [Store.get?_congr _ hscript, withScript, Store.get?_insert_self] at hbytes
    rw [hentry, Option.some.inj hbytes]

end Entries

/-! ### The usual reference to the script -/

namespace Layout

open Text.Utf8 (bytes)

/-- The usual reference to the script from where the sources are, with some separators. -/
def scriptReference (gap gap' : String) (id : Identifier) : String :=
  ".." ++ gap ++ buildDirName ++ gap' ++ scriptName id

theorem not_isSeparator_of_isSegment {segment : String} (h : isSegment segment.toList = true) :
    ∀ c ∈ segment.toList, Reference.isSeparator c = false := by
  intro c hc
  have hchar := isSegmentChar_of_mem h hc
  refine Bool.eq_false_iff.2 fun hseparator => ?_
  simp only [Reference.isSeparator, Bool.or_eq_true, decide_eq_true_eq] at hseparator
  rcases hseparator with rfl | rfl
  · exact absurd hchar (by decide)
  · exact absurd hchar (by decide)

theorem isPart_scriptName (id : Identifier) : Reference.IsPart (scriptName id).toList := by
  have hend : Reference.IsPart ".model.js".toList := by decide
  refine ⟨(id.isEntryName (by decide)).1, ?_⟩
  rw [scriptName, String.toList_append, Identifier.text_toList]
  simp only [List.forall_mem_append, List.forall_mem_cons]
  exact ⟨⟨not_isSeparator_of_isSegment id.author_isSegment, rfl,
    not_isSeparator_of_isSegment id.bcp47_isSegment, rfl,
    not_isSeparator_of_isSegment id.uniq_isSegment⟩, hend.2⟩

theorem parts_scriptReference {gap gap' : String} (hgap : Reference.IsGap gap.toList)
    (hgap' : Reference.IsGap gap'.toList) (id : Identifier) :
    Reference.parts (scriptReference gap gap' id) =
      [['.', '.'], buildDirName.toList, (scriptName id).toList] := by
  have hup : Reference.IsPart ['.', '.'] := by decide
  have hbuild : Reference.IsPart buildDirName.toList := by decide
  have hchars : (scriptReference gap gap' id).toList =
      ['.', '.'] ++ (gap.toList ++ (buildDirName.toList ++ (gap'.toList ++
        (scriptName id).toList))) := by
    simp only [scriptReference, String.toList_append, List.append_assoc]
    rfl
  rw [Reference.parts_eq, hchars, Reference.partsOf_append hup hgap,
    Reference.partsOf_append hbuild hgap', Reference.partsOf_of_isPart (isPart_scriptName id)]

theorem map_ofChars_scriptReference (id : Identifier) :
    [['.', '.'], buildDirName.toList, (scriptName id).toList].map Component.ofChars =
      [.parent, .name (bytes buildDirName), .name (bytes (scriptName id))] := by
  obtain ⟨-, -, hdot, hdots⟩ : Path.IsEntryName (scriptName id) := id.isEntryName (by decide)
  have hscript : Component.ofChars (scriptName id).toList = .name (bytes (scriptName id)) := by
    rw [Path.ofChars_eq, if_neg hdot, if_neg hdots, bytes]
  rw [List.map_cons, List.map_cons, List.map_cons, hscript]
  rfl

/-- **The usual reference denotes the script**, whatever separators it has, for an absolute build
directory without `..`. -/
theorem sourceFile_scriptReference {buildDir : Path} {id : Identifier} {loc : Location}
    (hcheck : Location.check buildDir id = .ok loc) (habsolute : buildDir.isAbsolute = true)
    (hparent : Component.parent ∉ buildDir.components) {gap gap' : String}
    (hgap : Reference.IsGap gap.toList) (hgap' : Reference.IsGap gap'.toList) :
    ∃ l, ofBuildDir buildDir = .ok l ∧
      (l.sourceFile (scriptReference gap gap' id)).components = (l.scriptPath id).components := by
  obtain ⟨⟨front, group, -, hnames⟩, -⟩ := Location.check_eq_ok_iff.1 hcheck
  obtain ⟨hroot, hentries⟩ := Path.components_of_isAbsolute habsolute hparent
  have hbuild : buildDir.components =
      .root :: (front ++ [group, bytes loc.author, bytes loc.language]).map .name ++
        [.name (bytes buildDirName)] := by
    rw [hroot, hnames]
    simp
  obtain ⟨q, hq, hmodel⟩ := Path.exists_parent?_eq hbuild
  refine ⟨⟨buildDir, q⟩, by rw [ofBuildDir, hq], ?_⟩
  generalize (Path.namesOf buildDir.components).map Component.name = entries at hroot hentries
  have hbelow : ∀ c ∈ entries ++ [.name (bytes (scriptName id))], Path.IsEntry c := by
    simp only [List.forall_mem_append, List.forall_mem_singleton]
    exact ⟨hentries, _, rfl, Path.isName_bytes.2 (id.isEntryName (by decide))⟩
  have hscript : (Component.root :: (entries ++ [.name (bytes (scriptName id))])) =
      buildDir.components ++ [.name (bytes (scriptName id))] := by
    rw [hroot, List.cons_append]
  -- up from the sources and down again is the build directory, which is in normal form
  have hdetour : Path.normalComponents (q.components ++ [.name (bytes sourceDirName)] ++
      [.parent, .name (bytes buildDirName), .name (bytes (scriptName id))]) =
      .root :: (entries ++ [.name (bytes (scriptName id))]) := by
    rw [List.append_assoc, List.singleton_append, Path.normalComponents_detour,
      ← Path.normalComponents_root_cons hbelow, hscript, hbuild, hmodel]
    simp
  rw [components_scriptPath, sourceFile, Path.resolve, parts_scriptReference hgap hgap',
    map_ofChars_scriptReference, components_sourceDir, hdetour,
    Path.components_ofComponents (Path.isNormal_root_cons hbelow), hscript, scriptName]

end Layout

/-- **The package ships the script of its own build.**  A listed file that is the script has just
the bytes of the generated script for its entry, whatever the store held before, and their number is
recorded; and the usual reference, with any separators, is such a file. -/
theorem package_ships_generated_script :
    (∀ (s s' : Store) (r : BuildRequest Store) (o : BuildOutcome), build s r = (.ok o, s') →
      ∃ (p : Prepared) (b : Bundle) (project : PackageProject),
        (prepare s r).1 = .ok p ∧
        packageProject? (prepare s r).2 p.layout p.identity.id = some project ∧
        bundle (p.withScript (prepare s r).2) r.archive p.layout p.identity.id = .ok b ∧
        (r.archive b.package.entries = .ok b.archive ∧
          s'.get? o.packagePath = some b.archive) ∧
        s'.get? o.scriptPath = some (Text.Utf8.encode p.generated.script) ∧
        o.modelInfo.jsFileSize = some (Text.Utf8.encode p.generated.script).size ∧
        ∀ (n : Nat) (f : ProjectFile), project.files[n]? = some f →
          (p.layout.packageFile p.identity.id f.source).components = o.scriptPath.components →
          b.package.entries[n]? =
            some ⟨Reference.fileName f.source, Text.Utf8.encode p.generated.script⟩) ∧
    ∀ (buildDir : Path) (id : Identifier) (loc : Location) (gap gap' : String),
      Location.check buildDir id = .ok loc → buildDir.isAbsolute = true →
      Component.parent ∉ buildDir.components →
      Reference.IsGap gap.toList → Reference.IsGap gap'.toList →
      ∃ l, Layout.ofBuildDir buildDir = .ok l ∧
        (l.packageFile id (Layout.scriptReference gap gap' id)).components =
          (l.scriptPath id).components := by
  refine ⟨fun s s' r o h => ?_, fun buildDir id loc gap gap' hcheck habsolute hparent hg hg' => ?_⟩
  · obtain ⟨p, b, hprepare, hbundle, rfl, rfl⟩ := build_ok h
    -- the files of the package are read once the new script is written
    obtain ⟨project, hproject, hentries⟩ := Prepared.entry_of_script hbundle
    obtain ⟨-, -, -, harchive⟩ := bundle_ok hbundle
    dsimp only [Prepared.outcome]
    refine ⟨p, b, project, hprepare, hproject, hbundle, ⟨harchive, p.get?_packagePath _ r b⟩,
      p.get?_scriptPath _ r b, rfl, fun n f hf hscript => ?_⟩
    rw [Layout.packageFile, Layout.resolve_packageSourcePath] at hscript
    exact hentries n f hf hscript
  · obtain ⟨l, hl, hscript⟩ :=
      Layout.sourceFile_scriptReference hcheck habsolute hparent hg hg'
    refine ⟨l, hl, ?_⟩
    rw [Layout.packageFile, Layout.resolve_packageSourcePath, hscript]

theorem package_ships_fresh_script :
    (∃ o s' entries archived script, build staleScriptStore listingRequest = (.ok o, s') ∧
      s'.get? o.scriptPath = some script ∧
      Archive.listing entries = .ok archived ∧ s'.get? o.packagePath = some archived ∧
      entries[0]? = some ⟨"a.b.c.model.js", script⟩) ∧
    ∃ l, Layout.ofBuildDir (.ofText "/g/a/b.c//build/") = .ok l ∧
      (l.packageFile customIdentity.id "..\\\\build//a.b.c.model.js").components =
        (l.scriptPath customIdentity.id).components := by
  constructor
  · obtain ⟨o, s₀, hscriptStore, -, hpath, -⟩ := build_scriptStore
    have hsame := sameInputs_staleScriptStore
    have ho : (build staleScriptStore listingRequest).1 = .ok o := by
      rw [← result_congr hsame ⟨_, rfl⟩, hscriptStore]
    generalize hend : build staleScriptStore listingRequest = ended at ho
    obtain ⟨first, s'⟩ := ended
    cases ho
    obtain ⟨p, b, project, hprepare, hproject, -, ⟨harchive, hpackage⟩, hscript, -, hentries⟩ :=
      package_ships_generated_script.1 _ _ _ _ hend
    obtain ⟨hlayout, hidentity⟩ := Prepared.concerns hprepare
    rw [← Identity.resolve_congr (hsame.listing _ hlayout)] at hidentity
    have hconcerns : listingRequest.Concerns scriptStore p.layout p.identity :=
      ⟨hlayout, hidentity⟩
    obtain ⟨hl, hi⟩ := concerns_scriptStore hconcerns
    rw [prepare_state _ fun _ _ => rfl, ← packageProject?_congr (hsame.project _ _ hconcerns), hl,
      hi] at hproject
    obtain ⟨listed, f, hlisted, hf, hsource⟩ := project_scriptStore
    cases hlisted.symm.trans hproject
    have hentry := hentries 0 f (by rw [hf]; rfl)
    rw [hl, hi, hsource, hpath] at hentry
    exact ⟨o, s', _, _, _, rfl, hscript, harchive, hpackage, hentry (by decide +kernel)⟩
  · have hloc : Location.check (.ofText "/g/a/b.c//build/") customIdentity.id =
        .ok ⟨"g", "a", "b.c"⟩ := by
      decide +kernel
    exact package_ships_generated_script.2 _ _ _ "\\\\" "//" hloc (by decide +kernel)
      (by decide +kernel) (by decide) (by decide)

end LexicalModel
