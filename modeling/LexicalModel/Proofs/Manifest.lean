import LexicalModel.FileSystem.Store
import LexicalModel.Manifest
import LexicalModel.Proofs.Failure
import LexicalModel.Proofs.Info
import LexicalModel.Proofs.Location
import LexicalModel.Proofs.Package

/-!
# What a manifest says

A manifest is what the author says about a model, completed by the package and by what is known of
the model.  Each text field has a list of candidates, and a blank field takes the first of them that
is not blank.  The last candidate never is: it is made from the identifier, from the moment of the
build, or from a setting, and settings that are blank are refused when they are read.

* `IsFirst` : the first candidate that is not blank
* `Config.validate_eq_ok_iff`, `Config.validate_of_resolve` : what holds of the settings of a build
* `TextField`, `BuildFacts.candidates` : the text fields and their candidates
* `ModelInfo.IsMerge` : what holds of a manifest
* `ModelInfo.isMerge_merge` : it holds of every manifest of a build
-/

namespace LexicalModel

/-! ### Blank fields -/

/-- A field that is missing, or holds nothing but white space. -/
def IsBlankField (field : Option String) : Prop :=
  ∀ s ∈ field, ∀ c ∈ s.toList, Text.isBlank c = true

/-- The text `s` is the first candidate that is not blank. -/
def IsFirst (candidates : List (Option String)) (s : String) : Prop :=
  ∃ before after, candidates = before ++ some s :: after ∧
    (∀ c ∈ before, IsBlankField c) ∧ ¬IsBlankField (some s)

theorem isBlankField_none : IsBlankField none := by
  intro s hs
  cases hs

theorem isBlankField_some {s : String} : IsBlankField (some s) ↔ Text.blank s = true := by
  simp [IsBlankField, Text.blank]

theorem not_isBlankField_of_mem {s : String} {c : Char} (hc : c ∈ s.toList)
    (hblank : Text.isBlank c = false) : ¬IsBlankField (some s) := by
  intro h
  rw [h s rfl c hc] at hblank
  cases hblank

theorem isSome_of_not_isBlankField {field : Option String} (h : ¬IsBlankField field) :
    field.isSome = true := by
  cases field with
  | none => exact absurd isBlankField_none h
  | some s => rfl

theorem bind_nonBlank?_of_blank {field : Option String} (h : IsBlankField field) :
    field.bind nonBlank? = none := by
  cases field with
  | none => rfl
  | some s =>
    change nonBlank? s = none
    rw [nonBlank?, if_pos (isBlankField_some.1 h)]

theorem bind_nonBlank?_of_not_blank {field : Option String} (h : ¬IsBlankField field) :
    field.bind nonBlank? = field := by
  cases field with
  | none => rfl
  | some s =>
    change nonBlank? s = some s
    rw [nonBlank?, if_neg (isBlankField_some.not.1 h)]

theorem findSome?_eq_some_iff_isFirst {candidates : List (Option String)} {s : String} :
    candidates.findSome? (·.bind nonBlank?) = some s ↔ IsFirst candidates s := by
  have hnone : ∀ c : Option String, c.bind nonBlank? = none ↔ IsBlankField c := by
    intro c
    refine ⟨fun h => ?_, bind_nonBlank?_of_blank⟩
    by_contra hc
    rw [bind_nonBlank?_of_not_blank hc] at h
    exact hc (h ▸ isBlankField_none)
  rw [List.findSome?_eq_some_iff, IsFirst]
  constructor
  · rintro ⟨before, c, after, rfl, hc, hbefore⟩
    have hfield : ¬IsBlankField c := by
      rw [← hnone, hc]
      exact Option.some_ne_none s
    rw [bind_nonBlank?_of_not_blank hfield] at hc
    subst hc
    exact ⟨before, after, rfl, fun d hd => (hnone d).1 (hbefore d hd), hfield⟩
  · rintro ⟨before, after, rfl, hbefore, hs⟩
    exact ⟨before, some s, after, rfl, bind_nonBlank?_of_not_blank hs,
      fun d hd => (hnone d).2 (hbefore d hd)⟩

theorem exists_isFirst {candidates : List (Option String)}
    (h : ∃ c ∈ candidates, ¬IsBlankField c) : ∃ s, IsFirst candidates s := by
  obtain ⟨c, hc, hblank⟩ := h
  cases hfind : candidates.findSome? (·.bind nonBlank?) with
  | some s => exact ⟨s, findSome?_eq_some_iff_isFirst.1 hfind⟩
  | none =>
    have hcandidate := List.findSome?_eq_none_iff.1 hfind c hc
    rw [bind_nonBlank?_of_not_blank hblank] at hcandidate
    exact absurd (hcandidate ▸ isBlankField_none) hblank

/-! ### Filling a field -/

section Fill

variable {field : Option String} {candidates : List (Option String)}

theorem fill_of_not_blank (h : ¬IsBlankField field) : fill field candidates = field := by
  obtain ⟨s, rfl⟩ := Option.isSome_iff_exists.1 (isSome_of_not_isBlankField h)
  simp only [fill, bind_nonBlank?_of_not_blank h]

theorem fill_of_blank (h : IsBlankField field) :
    fill field candidates = (candidates.findSome? (·.bind nonBlank?)).or field := by
  simp only [fill, bind_nonBlank?_of_blank h]

theorem fill_of_isFirst (h : IsBlankField field) {s : String} (hs : IsFirst candidates s) :
    fill field candidates = some s := by
  rw [fill_of_blank h, findSome?_eq_some_iff_isFirst.2 hs]
  rfl

theorem fill_of_blank_candidates (h : IsBlankField field)
    (hcandidates : ∀ c ∈ candidates, IsBlankField c) : fill field candidates = field := by
  have hfind : candidates.findSome? (·.bind nonBlank?) = none :=
    List.findSome?_eq_none_iff.2 fun c hc => bind_nonBlank?_of_blank (hcandidates c hc)
  rw [fill_of_blank h, hfind, Option.none_or]

/-- A filled field is not blank unless all of its candidates are. -/
theorem not_isBlankField_fill (h : ∃ c ∈ candidates, ¬IsBlankField c) :
    ¬IsBlankField (fill field candidates) := by
  by_cases hfield : IsBlankField field
  · obtain ⟨s, hs⟩ := exists_isFirst h
    rw [fill_of_isFirst hfield hs]
    obtain ⟨-, -, -, -, hblank⟩ := hs
    exact hblank
  · rw [fill_of_not_blank hfield]
    exact hfield

end Fill

/-! ### Settings -/

namespace Config

/-- The settings that can be used: of the known version, and none of them blank. -/
theorem validate_eq_ok_iff {c : Config} :
    c.validate = .ok () ↔ c.schemaVersion = 1 ∧ ¬IsBlankField (some c.minKeymanVersion) ∧
      ¬IsBlankField (some c.defaultLicense) ∧
      (∀ t ∈ c.transpiler, ¬IsBlankField (some t)) ∧
      ∀ t ∈ c.sourcePathPrefix, ¬IsBlankField (some t) := by
  have hany : ∀ o : Option String, o.any Text.blank = true ↔ ¬∀ t ∈ o, ¬IsBlankField (some t) := by
    intro o
    cases o <;> simp [isBlankField_some]
  have hversion : default.schemaVersion = 1 := rfl
  unfold validate
  rw [hversion]
  split_ifs with hschema hkeyman hlicense htranspiler hfront
  · exact iff_of_false (fun h => nomatch h) fun h => hschema h.1
  · exact iff_of_false (fun h => nomatch h) fun h => h.2.1 (isBlankField_some.2 hkeyman)
  · exact iff_of_false (fun h => nomatch h) fun h => h.2.2.1 (isBlankField_some.2 hlicense)
  · exact iff_of_false (fun h => nomatch h) fun h => (hany _).1 htranspiler h.2.2.2.1
  · exact iff_of_false (fun h => nomatch h) fun h => (hany _).1 hfront h.2.2.2.2
  · refine iff_of_true rfl ⟨not_not.1 hschema, ?_, ?_, ?_, ?_⟩
    · exact isBlankField_some.not.2 hkeyman
    · exact isBlankField_some.not.2 hlicense
    · exact not_not.1 ((hany _).not.1 htranspiler)
    · exact not_not.1 ((hany _).not.1 hfront)

theorem validate_default : default.validate = .ok () := rfl

variable {σ : Type} [FileSystem σ] {s : σ}

theorem validate_of_load {p : Path} {c : Config} (h : load s p = .ok c) : c.validate = .ok () := by
  obtain ⟨bytes, -, h⟩ := ok_of_bind h
  obtain ⟨c', -, h⟩ := ok_of_bind h
  obtain ⟨u, hvalid, h⟩ := ok_of_bind h
  cases h
  exact Result.ok_of_within hvalid

/-- **The settings of a build can be used**, wherever they come from. -/
theorem validate_of_resolve {explicit : Option Path} {project : Path} {configDir : Option Path}
    {c : Config} (h : resolve s explicit project configDir = .ok c) : c.validate = .ok () := by
  unfold resolve at h
  split at h
  · exact validate_of_load h
  · split at h
    · exact validate_of_load h
    · cases h
      exact validate_default

end Config

/-! ### Texts that are never blank -/

theorem isBlank_of_isSegmentStart {c : Char} (h : isSegmentStart c = true) :
    Text.isBlank c = false := by
  have hrange : 95 ≤ c.toNat ∧ c.toNat ≤ 122 := by
    simp only [isSegmentStart, Bool.or_eq_true, Bool.and_eq_true, decide_eq_true_eq] at h
    rcases h with ⟨hlow, hhigh⟩ | rfl
    · have hlow : 97 ≤ c.toNat := hlow
      have hhigh : c.toNat ≤ 122 := hhigh
      omega
    · decide
  simp only [Text.isBlank, Text.blankRanges, Text.inRanges]
  grind

theorem not_isBlankField_of_isSegment {s : String} (h : isSegment s.toList = true) :
    ¬IsBlankField (some s) := by
  obtain ⟨c, rest, hs, hc⟩ := isSegment_head h
  exact not_isBlankField_of_mem (hs ▸ List.mem_cons_self) (isBlank_of_isSegmentStart hc)

/-- Whatever follows an identifier. -/
theorem Identifier.not_isBlankField (id : Identifier) (more : String) :
    ¬IsBlankField (some (id.text ++ more)) := by
  have hdot : '.' ∈ (id.text ++ more).toList := by
    rw [String.toList_append, text_toList]
    simp
  exact not_isBlankField_of_mem hdot (by decide)

theorem Timestamp.not_isBlankField_render (t : Timestamp) : ¬IsBlankField (some t.render) := by
  have hzone : 'Z' ∈ t.render.toList := by
    simp [render]
  exact not_isBlankField_of_mem hzone (by decide)

theorem Location.not_isBlankField_sourcePath (front : String) (l : Location) :
    ¬IsBlankField (some (front ++ l.sourcePath)) := by
  have hslash : '/' ∈ (front ++ l.sourcePath).toList := by
    simp [sourcePath]
  exact not_isBlankField_of_mem hslash (by decide)

/-! ### Text fields and their candidates -/

/-- The text fields of a model info. -/
inductive TextField where
  | id
  | name
  | license
  | version
  | authorName
  | authorEmail
  | description
  | lastModifiedDate
  | packageFilename
  | jsFilename
  | minKeymanVersion
  | sourcePath
  deriving DecidableEq, Repr

/-- What a record holds in a text field. -/
def ModelInfo.field (m : ModelInfo) : TextField → Option String
  | .id => m.id
  | .name => m.name
  | .license => m.license
  | .version => m.version
  | .authorName => m.authorName
  | .authorEmail => m.authorEmail
  | .description => m.description
  | .lastModifiedDate => m.lastModifiedDate
  | .packageFilename => m.packageFilename
  | .jsFilename => m.jsFilename
  | .minKeymanVersion => m.minKeymanVersion
  | .sourcePath => m.sourcePath

/-- The candidates for a text field of the manifest `m`, the preferred ones first.  A description
falls back on the name in the manifest itself. -/
def BuildFacts.candidates (f : BuildFacts) (m : ModelInfo) : TextField → List (Option String)
  | .id => [some f.id.text]
  | .name => [(f.package.lexicalModels.find? fun p => p.id = f.id.text).bind PackageModel.name,
      f.package.info.name, some f.id.text]
  | .license => [some f.config.defaultLicense]
  | .version => [f.package.info.version, some "1.0"]
  | .authorName => [f.package.info.author.map PackageAuthor.name, some f.id.author]
  | .authorEmail => [f.package.info.author.bind PackageAuthor.email]
  | .description => [f.package.info.description, m.name]
  | .lastModifiedDate => [some f.now.render]
  | .packageFilename => [some (f.id.text ++ ".model.kmp")]
  | .jsFilename => [some (f.id.text ++ ".model.js")]
  | .minKeymanVersion => [some f.config.minKeymanVersion]
  | .sourcePath => [some f.sourcePath]

theorem BuildFacts.not_isBlankField_sourcePath (f : BuildFacts) :
    ¬IsBlankField (some f.sourcePath) := by
  unfold sourcePath
  split
  · exact f.location.not_isBlankField_sourcePath _
  · have hempty : f.location.sourcePath = "" ++ f.location.sourcePath := String.empty_append.symm
    rw [hempty]
    exact f.location.not_isBlankField_sourcePath ""

/-- The front of a text whose final slashes are dropped. -/
theorem dropFinalSlashes_spec (s : String) : ∃ slashes : String, s = dropFinalSlashes s ++ slashes ∧
    (∀ c ∈ slashes.toList, c = '/') ∧ (dropFinalSlashes s).toList.getLast? ≠ some '/' := by
  have hdrop : (dropFinalSlashes s).toList = s.toList.rdropWhile (· = '/') := by
    rw [dropFinalSlashes, String.toList_ofList, List.rdropWhile]
  refine ⟨String.ofList (s.toList.rtakeWhile (· = '/')), ?_, fun c hc => ?_, fun hlast => ?_⟩
  · rw [← String.toList_inj, String.toList_append, hdrop, String.toList_ofList]
    exact (List.rdropWhile_append_rtakeWhile ..).symm
  · rw [String.toList_ofList] at hc
    simpa using List.mem_rtakeWhile_imp hc
  · rw [hdrop] at hlast
    have hne : s.toList.rdropWhile (· = '/') ≠ [] := by
      rintro hnil
      rw [hnil] at hlast
      cases hlast
    rw [List.getLast?_eq_some_getLast hne] at hlast
    exact List.rdropWhile_last_not _ _ hne (by simpa using Option.some.inj hlast)

/-! ### The manifest -/

namespace ModelInfo

/-- What holds of the manifest `m` that is made from the author's record `info` and the facts of a
build. -/
structure IsMerge (info : ModelInfo) (f : BuildFacts) (m : ModelInfo) : Prop where
  /-- Every field is there. -/
  present : m.members.map Prod.fst = keys
  /-- No text is blank but possibly the mail address. -/
  complete : ∀ t, t ≠ .authorEmail → ¬IsBlankField (m.field t)
  /-- There are languages. -/
  speaks : ∃ languages, m.languages = some languages ∧ languages ≠ []
  /-- What the author says stays. -/
  kept : ∀ t, ¬IsBlankField (info.field t) → m.field t = info.field t
  /-- The languages that the author gives stay. -/
  keptLanguages : ∀ languages, info.languages = some languages → languages ≠ [] →
    m.languages = some languages
  /-- What the author leaves blank is the first candidate that is not. -/
  filled : ∀ t, t ≠ .authorEmail → IsBlankField (info.field t) →
    ∃ s, IsFirst (f.candidates m t) s ∧ m.field t = some s
  /-- Missing languages are those of the package's first model of that identifier, in its order;
  without such languages it is the one in the identifier. -/
  filledLanguages : info.languages.getD [] = [] →
    (∀ model, f.package.lexicalModels.find? (fun p => p.id = f.id.text) = some model →
      model.languages ≠ [] → m.languages = some (model.languages.map PackageLanguage.id)) ∧
    ((∀ model, f.package.lexicalModels.find? (fun p => p.id = f.id.text) = some model →
      model.languages = []) → m.languages = some [f.id.bcp47])
  /-- A path of the sources that is filled in is group, author and language of the location, below
  the configured path without its final slashes. -/
  filledSourcePath : IsBlankField info.sourcePath →
    (f.config.sourcePathPrefix = none → m.sourcePath =
      some (f.location.group ++ "/" ++ f.location.author ++ "/" ++ f.location.language)) ∧
    ∀ front, f.config.sourcePathPrefix = some front → ∃ start slashes : String,
      front = start ++ slashes ∧ (∀ c ∈ slashes.toList, c = '/') ∧
      start.toList.getLast? ≠ some '/' ∧
      m.sourcePath = some (start ++ "/" ++
        (f.location.group ++ "/" ++ f.location.author ++ "/" ++ f.location.language))
  /-- A blank mail address is that of the package, unless that is blank too; then it stays, and is
  empty where there is none. -/
  email : IsBlankField info.authorEmail →
    (¬IsBlankField (f.package.info.author.bind PackageAuthor.email) →
      m.authorEmail = f.package.info.author.bind PackageAuthor.email) ∧
    (IsBlankField (f.package.info.author.bind PackageAuthor.email) →
      m.authorEmail = some (info.authorEmail.getD ""))
  /-- Sizes are those of the build. -/
  sizes : m.packageFileSize = some f.packageFileSize ∧ m.jsFileSize = some f.jsFileSize
  /-- Fonts are recorded just where the package names some, and nothing else is. -/
  fonts :
    m.packageIncludes = some ["fonts"] ∧
        (∃ n ∈ f.package.files.map PackageFile.name, EndsAsFont n) ∨
      m.packageIncludes = some [] ∧ ¬∃ n ∈ f.package.files.map PackageFile.name, EndsAsFont n
  /-- What the library does not know is carried along. -/
  extra : m.extra = info.extra

variable (info : ModelInfo) (f : BuildFacts)

theorem field_merge {t : TextField} (ht : t ≠ .authorEmail) :
    (info.merge f).field t = fill (info.field t) (f.candidates (info.merge f) t) := by
  cases t with
  | authorEmail => exact absurd rfl ht
  | _ => rfl

theorem authorEmail_merge : (info.merge f).authorEmail =
    (fill info.authorEmail (f.candidates (info.merge f) .authorEmail)).or (some "") := rfl

theorem languages_merge : (info.merge f).languages =
    some (if info.languages.getD [] = [] then f.languages else info.languages.getD []) := rfl

theorem not_isBlankField_name_merge : ¬IsBlankField (info.merge f).name := by
  change ¬IsBlankField ((info.merge f).field .name)
  rw [field_merge info f (by decide)]
  have hid := f.id.not_isBlankField ""
  rw [String.append_empty] at hid
  exact not_isBlankField_fill ⟨some f.id.text, by simp [BuildFacts.candidates], hid⟩

variable {f}

/-- Some candidate is not blank: the last one. -/
theorem exists_candidate (hconfig : f.config.validate = .ok ()) {t : TextField}
    (ht : t ≠ .authorEmail) : ∃ c ∈ f.candidates (info.merge f) t, ¬IsBlankField c := by
  obtain ⟨-, hkeyman, hlicense, -⟩ := Config.validate_eq_ok_iff.1 hconfig
  have hid := f.id.not_isBlankField ""
  rw [String.append_empty] at hid
  have hlast : ∀ {c : Option String} {cs : List (Option String)}, ¬IsBlankField c →
      cs.getLast? = some c → ∃ c ∈ cs, ¬IsBlankField c :=
    fun hc hcs => ⟨_, List.mem_of_getLast? hcs, hc⟩
  cases t with
  | id => exact hlast hid rfl
  | name => exact hlast hid rfl
  | license => exact hlast hlicense rfl
  | version => exact hlast (isBlankField_some.not.2 (by decide)) rfl
  | authorName => exact hlast (not_isBlankField_of_isSegment f.id.author_isSegment) rfl
  | authorEmail => exact absurd rfl ht
  | description => exact hlast (not_isBlankField_name_merge info f) rfl
  | lastModifiedDate => exact hlast f.now.not_isBlankField_render rfl
  | packageFilename => exact hlast (f.id.not_isBlankField _) rfl
  | jsFilename => exact hlast (f.id.not_isBlankField _) rfl
  | minKeymanVersion => exact hlast hkeyman rfl
  | sourcePath => exact hlast f.not_isBlankField_sourcePath rfl

theorem map_fst_optionalMember {α : Type} {key : String} {toJson : α → Json.Value} {o : Option α}
    (h : o.isSome = true) : (optionalMember key toJson o).map Prod.fst = [key] := by
  obtain ⟨a, rfl⟩ := Option.isSome_iff_exists.1 h
  rfl

theorem keys_members {m : ModelInfo} (htext : ∀ t, (m.field t).isSome = true)
    (hlanguages : m.languages.isSome = true) (hpackage : m.packageFileSize.isSome = true)
    (hscript : m.jsFileSize.isSome = true) (hincludes : m.packageIncludes.isSome = true) :
    m.members.map Prod.fst = keys := by
  simp only [members, List.map_append, map_fst_optionalMember (o := m.id) (htext .id),
    map_fst_optionalMember (o := m.name) (htext .name),
    map_fst_optionalMember (o := m.license) (htext .license),
    map_fst_optionalMember (o := m.version) (htext .version), map_fst_optionalMember hlanguages,
    map_fst_optionalMember (o := m.authorName) (htext .authorName),
    map_fst_optionalMember (o := m.authorEmail) (htext .authorEmail),
    map_fst_optionalMember (o := m.description) (htext .description),
    map_fst_optionalMember (o := m.lastModifiedDate) (htext .lastModifiedDate),
    map_fst_optionalMember (o := m.packageFilename) (htext .packageFilename),
    map_fst_optionalMember hpackage, map_fst_optionalMember (o := m.jsFilename) (htext .jsFilename),
    map_fst_optionalMember hscript, map_fst_optionalMember hincludes,
    map_fst_optionalMember (o := m.minKeymanVersion) (htext .minKeymanVersion),
    map_fst_optionalMember (o := m.sourcePath) (htext .sourcePath)]
  rfl

theorem complete_merge (hconfig : f.config.validate = .ok ()) {t : TextField}
    (ht : t ≠ .authorEmail) : ¬IsBlankField ((info.merge f).field t) := by
  rw [field_merge info f ht]
  exact not_isBlankField_fill (exists_candidate info hconfig ht)

theorem isSome_field_merge (hconfig : f.config.validate = .ok ()) (t : TextField) :
    ((info.merge f).field t).isSome = true := by
  by_cases ht : t = .authorEmail
  · subst ht
    change (info.merge f).authorEmail.isSome = true
    rw [authorEmail_merge]
    simp
  · exact isSome_of_not_isBlankField (complete_merge info hconfig ht)

theorem filled_merge (hconfig : f.config.validate = .ok ()) {t : TextField}
    (ht : t ≠ .authorEmail) (hblank : IsBlankField (info.field t)) :
    ∃ s, IsFirst (f.candidates (info.merge f) t) s ∧ (info.merge f).field t = some s := by
  obtain ⟨s, hs⟩ := exists_isFirst (exists_candidate info hconfig ht)
  refine ⟨s, hs, ?_⟩
  rw [field_merge info f ht, fill_of_isFirst hblank hs]

theorem kept_merge {t : TextField} (h : ¬IsBlankField (info.field t)) :
    (info.merge f).field t = info.field t := by
  by_cases ht : t = .authorEmail
  · subst ht
    change (info.merge f).authorEmail = info.authorEmail
    have hkept : fill info.authorEmail (f.candidates (info.merge f) .authorEmail) =
        info.authorEmail := fill_of_not_blank h
    obtain ⟨s, hs⟩ := Option.isSome_iff_exists.1 (isSome_of_not_isBlankField h)
    have hs : info.authorEmail = some s := hs
    rw [authorEmail_merge, hkept, hs, Option.some_or]
  · rw [field_merge info f ht]
    exact fill_of_not_blank h

theorem languages_ne_nil (f : BuildFacts) : f.languages ≠ [] := by
  unfold BuildFacts.languages
  split
  · simp
  · assumption

theorem speaks_merge (f : BuildFacts) :
    ∃ languages, (info.merge f).languages = some languages ∧ languages ≠ [] := by
  refine ⟨_, languages_merge info f, ?_⟩
  split_ifs with hnone
  · exact languages_ne_nil f
  · exact hnone

theorem filledLanguages_merge (h : info.languages.getD [] = []) :
    (∀ model, f.model? = some model → model.languages ≠ [] →
      (info.merge f).languages = some (model.languages.map PackageLanguage.id)) ∧
    ((∀ model, f.model? = some model → model.languages = []) →
      (info.merge f).languages = some [f.id.bcp47]) := by
  rw [languages_merge, if_pos h]
  refine ⟨fun model hmodel hne => congrArg some ?_, fun hnone => congrArg some ?_⟩
  · have hids : model.languages.map PackageLanguage.id ≠ [] := by simpa using hne
    simp only [BuildFacts.languages, hmodel, Option.map_some, Option.getD_some]
  · have hids : (f.model?.map fun m => m.languages.map PackageLanguage.id).getD [] = [] := by
      cases hmodel : f.model? with
      | none => rfl
      | some model => simp [hnone model hmodel]
    simp only [BuildFacts.languages, hids]

theorem filledSourcePath_merge (h : IsBlankField info.sourcePath) :
    (f.config.sourcePathPrefix = none → (info.merge f).sourcePath =
      some (f.location.group ++ "/" ++ f.location.author ++ "/" ++ f.location.language)) ∧
    ∀ front, f.config.sourcePathPrefix = some front → ∃ start slashes : String,
      front = start ++ slashes ∧ (∀ c ∈ slashes.toList, c = '/') ∧
      start.toList.getLast? ≠ some '/' ∧
      (info.merge f).sourcePath = some (start ++ "/" ++
        (f.location.group ++ "/" ++ f.location.author ++ "/" ++ f.location.language)) := by
  have hfilled : (info.merge f).sourcePath = some f.sourcePath :=
    fill_of_isFirst h ⟨[], [], rfl, by simp, f.not_isBlankField_sourcePath⟩
  rw [hfilled]
  refine ⟨fun hfront => ?_, fun front hfront => ?_⟩
  · simp only [BuildFacts.sourcePath, hfront, Location.sourcePath]
  · obtain ⟨slashes, hsplit, hslashes, hlast⟩ := dropFinalSlashes_spec front
    refine ⟨dropFinalSlashes front, slashes, hsplit, hslashes, hlast, ?_⟩
    simp only [BuildFacts.sourcePath, hfront, Location.sourcePath]

theorem fonts_merge (f : BuildFacts) :
    (info.merge f).packageIncludes = some ["fonts"] ∧
        (∃ n ∈ f.package.files.map PackageFile.name, EndsAsFont n) ∨
      (info.merge f).packageIncludes = some [] ∧
        ¬∃ n ∈ f.package.files.map PackageFile.name, EndsAsFont n :=
  (packageIncludes_cases _).imp (And.imp_left (congrArg some)) (And.imp_left (congrArg some))

theorem email_merge (h : IsBlankField info.authorEmail) :
    (¬IsBlankField (f.package.info.author.bind PackageAuthor.email) →
      (info.merge f).authorEmail = f.package.info.author.bind PackageAuthor.email) ∧
    (IsBlankField (f.package.info.author.bind PackageAuthor.email) →
      (info.merge f).authorEmail = some (info.authorEmail.getD "")) := by
  rw [authorEmail_merge]
  refine ⟨fun hpackage => ?_, fun hpackage => ?_⟩
  · obtain ⟨s, hs⟩ := Option.isSome_iff_exists.1 (isSome_of_not_isBlankField hpackage)
    rw [hs] at hpackage
    have hfirst : IsFirst (f.candidates (info.merge f) .authorEmail) s :=
      ⟨[], [], congrArg ([·]) hs, by simp, hpackage⟩
    rw [fill_of_isFirst h hfirst, hs, Option.some_or]
  · rw [fill_of_blank_candidates h]
    · cases info.authorEmail <;> rfl
    · intro c hc
      rw [List.mem_singleton.1 hc]
      exact hpackage

/-- **The manifest of a build is complete, and what the author says comes first.**  It is so for
every record of an author and for all facts of a build, as long as the settings are those that hold
for some build. -/
theorem isMerge_merge {σ : Type} [FileSystem σ] {s : σ} {explicit : Option Path} {project : Path}
    {configDir : Option Path}
    (hresolve : Config.resolve s explicit project configDir = .ok f.config) :
    IsMerge info f (info.merge f) where
  present :=
    keys_members (isSome_field_merge info (Config.validate_of_resolve hresolve)) rfl rfl rfl rfl
  complete _ ht := complete_merge info (Config.validate_of_resolve hresolve) ht
  speaks := speaks_merge info f
  kept _ ht := kept_merge info ht
  keptLanguages languages hgiven hne := by
    rw [languages_merge, hgiven, Option.getD_some, if_neg hne]
  filled _ ht hblank := filled_merge info (Config.validate_of_resolve hresolve) ht hblank
  filledLanguages hnone := filledLanguages_merge info hnone
  filledSourcePath hblank := filledSourcePath_merge info hblank
  email hblank := email_merge info hblank
  sizes := ⟨rfl, rfl⟩
  fonts := fonts_merge info f
  extra := rfl

/-- A project with settings of its own. -/
def settingsStore : Store :=
  Store.empty.insert (.ofText "/g/demo/en.sample/kmlmc.json")
    (Text.Utf8.encode "\x7b\"source_path_prefix\":\"release//\"\x7d")

/-- The facts of a build of that project, whose package says next to nothing. -/
def settingsFacts : BuildFacts where
  id := Location.demoIdentifier
  location := ⟨"g", "demo", "en.sample"⟩
  package :=
    { info := { name := some " " }, files := [⟨"Sample.TTF", ""⟩],
      lexicalModels := [⟨"demo.en.sample", none, []⟩] }
  packageFileSize := 1
  jsFileSize := 2
  now := ⟨0, 0⟩
  config := { sourcePathPrefix := some "release//" }

/-- The blank name is filled in from the third candidate and the path of the sources from the
location; the version is the author's, and the one listed file is a font. -/
theorem merge_settings :
    Config.resolve settingsStore none (.ofText "/g/demo/en.sample/kmlmc.json") none =
        .ok settingsFacts.config ∧
      (merge { version := some "2" } settingsFacts).field .version = some "2" ∧
      (merge { version := some "2" } settingsFacts).field .name = some "demo.en.sample" ∧
      IsFirst [none, some " ", some "demo.en.sample"] "demo.en.sample" ∧
      (merge { version := some "2" } settingsFacts).field .sourcePath =
        some "release/g/demo/en.sample" ∧
      (merge { version := some "2" } settingsFacts).packageIncludes = some ["fonts"] ∧
      EndsAsFont "Sample.TTF" := by
  have hresolve : Config.resolve settingsStore none (.ofText "/g/demo/en.sample/kmlmc.json") none =
      .ok settingsFacts.config := by
    decide +kernel
  have hmerge := isMerge_merge { version := some "2" } hresolve
  have hname : (merge { version := some "2" } settingsFacts).field .name =
      some "demo.en.sample" := by
    decide +kernel
  have hincludes : (merge { version := some "2" } settingsFacts).packageIncludes =
      some ["fonts"] := by
    decide +kernel
  refine ⟨hresolve, hmerge.kept .version (isBlankField_some.not.2 (by decide)), hname, ?_,
    by decide +kernel, hincludes, ?_⟩
  · obtain ⟨name, hfirst, hfilled⟩ := hmerge.filled .name (by decide) isBlankField_none
    obtain rfl : name = "demo.en.sample" := Option.some.inj (hfilled.symm.trans hname)
    exact hfirst
  · rcases hmerge.fonts with ⟨-, n, hn, hfont⟩ | ⟨hnone, -⟩
    · rwa [List.mem_singleton.1 hn] at hfont
    · cases hincludes.symm.trans hnone

end ModelInfo

end LexicalModel
