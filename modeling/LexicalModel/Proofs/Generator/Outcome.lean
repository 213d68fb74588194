import LexicalModel.Proofs.FileSystem
import LexicalModel.Proofs.Generator.Parts
import LexicalModel.Proofs.WordList.Faults

/-!
# Which models can be compiled, and what is reported of the others

The script of a model is generated just where its parts can be made.  Where it is not, the failure
is a fault of the format in four cases only: the tag of the format is unknown, or it is that of
transducers, whose files could be read; or a part that the author wrote does not say which class to
load, which for the word breaker is found out only once the model itself is done.  In all other
cases it is a file, the transpiler or the trie builder that failed.

* `FormatFault` : the four cases
* `failsAs_emitModel_iff`, `failsAs_emitDeclared_iff` : the faults of the parts
* `Trie.literal_ordinary` : the trie builder never finds fault with the format
* `generate_classified` : when there is a script, and when the format is at fault
-/

namespace LexicalModel

open Result (andThen Ordinary FailsAs failsAs_fail_iff failsAs_bind_iff failsAs_andThen_iff
  failsAs_map_iff not_failsAs_ok)

/-! ### Steps that never find fault with the format -/

section Transpiler

variable {σ : Type} {t : Transpiler σ} (ht : ∀ source s, Ordinary (t source s).1)
include ht

theorem Transpiler.texts_ordinary (sources : List SourceFile) (s : σ) :
    Ordinary (t.texts sources s).1 := by
  induction sources generalizing s with
  | nil => exact errorIs_ok _ _
  | cons source rest ih =>
    have hone : Ordinary (t.one source s).1 := (ht source s).within _
    refine hone.andThen fun text s₁ => ?_
    exact (ih s₁).andThen fun texts s₂ => errorIs_ok _ _

theorem Transpiler.all_ordinary (sources : List SourceFile) (s : σ) :
    Ordinary (t.all sources s).1 :=
  (texts_ordinary ht sources s).andThen fun _ _ => errorIs_ok _ _

end Transpiler

theorem WordList.readAll_ordinary (lists : List SourceFile) : Ordinary (readAll lists) := by
  by_cases h : ∃ list ∈ lists, AtFault list
  · obtain ⟨before, list, after, front, line, back, rfl, hfirst⟩ := exists_firstFault h
    rw [readAll_of_firstFault hfirst after]
    exact errorIs_error rfl
  · have hsound : ∀ list ∈ lists, ¬AtFault list := fun list hlist hfault => h ⟨list, hlist, hfault⟩
    rw [readAll_of_sound hsound]
    exact errorIs_ok _ _

/-- A word list that cannot be used is no fault of the format. -/
theorem Trie.literal_ordinary (maxLeaf : Nat) (lists : List SourceFile) :
    Ordinary (literal maxLeaf lists) := by
  refine ErrorIs.bind ?_ fun trie => errorIs_ok _ _
  exact (WordList.readAll_ordinary lists).bind fun counted => errorIs_ok _ _

variable {σ : Type} [FileSystem σ] {s : σ} {l : Layout} {kind : FailureKind}

theorem readSources_ordinary [OrdinaryFiles σ] (s : σ) (l : Layout) (references : List String) :
    Ordinary (readSources s l references) := by
  refine ErrorIs.mapM fun reference _ => ?_
  exact ((readText_ordinary s _).within _).bind fun text => errorIs_ok _ _

/-! ### Faults of the parts -/

theorem failsAs_requireRootClass_iff {part : String} {declared : Option String} :
    FailsAs kind (requireRootClass part declared) ↔ kind = .format ∧ declared = none := by
  cases declared with
  | none =>
    have hcause : (Cause.missingRootClass part).kind = .format := rfl
    simp [requireRootClass, failsAs_fail_iff, hcause, eq_comm]
  | some a => simp [requireRootClass, not_failsAs_ok]

theorem failsAs_parse_iff {tag : String} :
    FailsAs kind (ModelFormat.parse tag) ↔
      kind = .format ∧ ∀ format : ModelFormat, tag ≠ format.tag := by
  cases hparse : ModelFormat.parse tag with
  | ok format =>
    have htag := ModelFormat.parse_eq_ok_iff.1 hparse
    constructor
    · intro h
      exact absurd h (not_failsAs_ok format)
    · rintro ⟨-, hunknown⟩
      exact absurd htag (hunknown format)
  | error f =>
    have hunknown : ∀ format : ModelFormat, tag ≠ format.tag := by
      intro format htag
      cases hparse.symm.trans (ModelFormat.parse_eq_ok_iff.2 htag)
    have hkind : f.kind = .format := by
      unfold ModelFormat.parse at hparse
      split at hparse
      · cases hparse
      · cases hparse
        rfl
    constructor
    · rintro ⟨_, h, rfl⟩
      cases h
      exact ⟨hkind, hunknown⟩
    · rintro ⟨rfl, -⟩
      exact ⟨f, rfl, hkind⟩

/-- A part that the author wrote: once the class is known, nothing more is wrong with the format. -/
theorem failsAs_written_iff {τ α : Type} {part : String} {declared : Option String} {u : τ}
    {rest : String → τ → Result α × τ} (hkind : kind ≠ .other)
    (hrest : ∀ rootClass u', Ordinary (rest rootClass u').1) :
    FailsAs kind (andThen (requireRootClass part declared, u) rest).1 ↔
      kind = .format ∧ declared = none := by
  rw [failsAs_andThen_iff, failsAs_requireRootClass_iff]
  constructor
  · rintro (h | ⟨rootClass, u', -, h⟩)
    · exact h
    · exact absurd h ((hrest rootClass u').not_failsAs hkind)
  · exact .inl

theorem failsAs_emitTransducer_iff [OrdinaryFiles σ] {m : ModelSource} (hkind : kind ≠ .other) :
    FailsAs kind (emitTransducer s l m) ↔ kind = .format ∧
      ∀ reference ∈ m.sources, ∃ bytes, FileSystem.read s (l.sourceFile reference) = .ok bytes := by
  have hread : Ordinary (m.sources.mapM fun reference =>
      FileSystem.read s (l.sourceFile reference)) :=
    ErrorIs.mapM fun reference _ => OrdinaryFiles.read_ordinary s _
  have hcause : (Cause.unimplementedFormat ModelFormat.fstFoma.tag).kind = .format := rfl
  simp only [emitTransducer, failsAs_bind_iff, hread.not_failsAs hkind, false_or,
    failsAs_fail_iff, hcause, ← exists_mapM_eq_ok_iff]
  constructor
  · rintro ⟨bytes, hbytes, rfl⟩
    exact ⟨rfl, bytes, hbytes⟩
  · rintro ⟨rfl, bytes, hbytes⟩
    exact ⟨bytes, hbytes, rfl⟩

theorem emitTrie_ordinary [OrdinaryFiles σ] {builder : List SourceFile → Result String}
    (hbuilder : ∀ lists, Ordinary (builder lists)) (m : ModelSource) (script : Script) :
    Ordinary (emitTrie s l builder m script) := by
  refine (readSources_ordinary s l m.sources).bind fun lists => ?_
  exact (hbuilder lists).bind fun literal => errorIs_ok _ _

/-- What is wrong with the format of a model, where something is. -/
inductive FormatFault (s : σ) (l : Layout) (tools : Tools σ) (m : ModelSource) : Prop
  /-- Nobody knows the tag. -/
  | unknownTag (htag : ∀ format : ModelFormat, m.format ≠ format.tag)
  /-- A transducer, all of whose files could be read. -/
  | transducer (htag : m.format = "fst-foma-1.0")
    (hread : ∀ reference ∈ m.sources,
      ∃ bytes, FileSystem.read s (l.sourceFile reference) = .ok bytes)
  /-- The author's model, whatever its sources, does not say which class to load. -/
  | noModelClass (htag : m.format = "custom-1.0") (hclass : m.rootClass = none)
  /-- The model is done, but the author's word breaker does not say which class to load. -/
  | noBreakerClass {model : List Block} {s' : σ} {w : WordBreaking} {references : List String}
    (hmodel : ModelCode s l tools m model s') (hdeclared : m.wordBreaking = some w)
    (hsources : w.sources = some references) (hclass : w.rootClass = none)

section Tools

variable [OrdinaryFiles σ] {tools : Tools σ}
  (htranspiler : ∀ source s, Ordinary (tools.transpiler source s).1)
  (hbuilder : ∀ lists, Ordinary (tools.trieBuilder lists))
include htranspiler

theorem failsAs_emitCustom_iff {m : ModelSource} {script : Script} (hkind : kind ≠ .other) :
    FailsAs kind (emitCustom s l tools.transpiler m script).1 ↔
      kind = .format ∧ m.rootClass = none := by
  refine failsAs_written_iff hkind fun rootClass s => ?_
  refine Ordinary.andThen (readSources_ordinary s l m.sources) fun files s => ?_
  exact (Transpiler.all_ordinary htranspiler files s).andThen fun code s => errorIs_ok _ _

include hbuilder in
theorem failsAs_emitModel_iff {m : ModelSource} {script : Script} {format : ModelFormat}
    (hkind : kind ≠ .other) (hformat : m.format = format.tag) :
    FailsAs kind (emitModel s l tools m script format).1 ↔ kind = .format ∧
      (m.format = "fst-foma-1.0" ∧ (∀ reference ∈ m.sources,
          ∃ bytes, FileSystem.read s (l.sourceFile reference) = .ok bytes) ∨
        m.format = "custom-1.0" ∧ m.rootClass = none) := by
  rw [hformat]
  cases format with
  | custom =>
    simp [emitModel, failsAs_emitCustom_iff htranspiler hkind, ModelFormat.tag]
  | fstFoma => simp [emitModel, failsAs_emitTransducer_iff hkind, ModelFormat.tag]
  | trie =>
    have hordinary : Ordinary (emitTrie s l tools.trieBuilder m script) :=
      emitTrie_ordinary hbuilder m script
    simp [emitModel, hordinary.not_failsAs hkind, ModelFormat.tag]

theorem failsAs_emitWordBreaker_iff {e : Emission σ} (hkind : kind ≠ .other) :
    FailsAs kind (emitWordBreaker l tools.transpiler e).1 ↔
      kind = .format ∧ (∃ references, e.wordBreaking.sources = some references) ∧
        e.wordBreaking.rootClass = none := by
  cases hsources : e.wordBreaking.sources with
  | none => simp [emitWordBreaker, hsources, not_failsAs_ok]
  | some references =>
    simp only [emitWordBreaker, hsources]
    rw [failsAs_written_iff hkind]
    · simp [Emission.dropSources, WordBreaking.withoutSources]
    · intro rootClass e
      refine Ordinary.andThen (readSources_ordinary e.files l references) fun files e => ?_
      exact Ordinary.andThen (Transpiler.all_ordinary htranspiler files e.files)
        fun code e => errorIs_ok _ _

theorem failsAs_emitDeclared_iff {script : Script} {declared : Option WordBreaking}
    (hkind : kind ≠ .other) :
    FailsAs kind (emitDeclared s l tools.transpiler script declared).1 ↔
      kind = .format ∧ ∃ w references, declared = some w ∧ w.sources = some references ∧
        w.rootClass = none := by
  cases declared with
  | none => simp [emitDeclared, not_failsAs_ok]
  | some w =>
    simp only [emitDeclared, failsAs_map_iff, failsAs_emitWordBreaker_iff htranspiler hkind]
    simp

include hbuilder in
/-- **The format of a model is at fault in four cases.** -/
theorem failsAs_generate_iff {id : Identifier} {m : ModelSource} (hkind : kind ≠ .other) :
    FailsAs kind (generate s l id m tools).1 ↔ kind = .format ∧ FormatFault s l tools m := by
  simp only [generate, failsAs_andThen_iff, failsAs_parse_iff, pair_eq_ok_iff,
    ModelFormat.parse_eq_ok_iff]
  constructor
  · -- the tag, the model and the word breaker come in this order, and the first to fail decides
    rintro (⟨rfl, htag⟩ | ⟨format, _, ⟨hformat, rfl⟩, h⟩)
    · exact ⟨rfl, .unknownTag htag⟩
    rcases h with h | ⟨script, s', hscript, h⟩
    · obtain ⟨rfl, ⟨htag, hread⟩ | ⟨htag, hclass⟩⟩ :=
        (failsAs_emitModel_iff htranspiler hbuilder hkind hformat).1 h
      · exact ⟨rfl, .transducer htag hread⟩
      · exact ⟨rfl, .noModelClass htag hclass⟩
    obtain ⟨model, hmodel, rfl⟩ := (emitModel_eq_ok_iff hformat).1 hscript
    rcases h with h | ⟨_, _, -, h⟩
    · obtain ⟨rfl, w, references, hdeclared, hsources, hclass⟩ :=
        (failsAs_emitDeclared_iff htranspiler hkind).1 h
      exact ⟨rfl, .noBreakerClass hmodel hdeclared hsources hclass⟩
    · exact absurd h (not_failsAs_ok _)
  · rintro ⟨rfl, hfault⟩
    cases hfault with
    | unknownTag htag => exact .inl ⟨rfl, htag⟩
    | transducer htag hread =>
      refine .inr ⟨.fstFoma, s, ⟨htag, rfl⟩, .inl ?_⟩
      exact (failsAs_emitModel_iff htranspiler hbuilder hkind htag).2 ⟨rfl, .inl ⟨htag, hread⟩⟩
    | noModelClass htag hclass =>
      refine .inr ⟨.custom, s, ⟨htag, rfl⟩, .inl ?_⟩
      exact (failsAs_emitModel_iff htranspiler hbuilder hkind htag).2 ⟨rfl, .inr ⟨htag, hclass⟩⟩
    | noBreakerClass hmodel hdeclared hsources hclass =>
      -- only here has a step before succeeded
      obtain ⟨format, hformat⟩ := hmodel.exists_format
      refine .inr ⟨format, s, ⟨hformat, rfl⟩, .inr ⟨_, _,
        (emitModel_eq_ok_iff hformat).2 ⟨_, hmodel, rfl⟩, .inl ?_⟩⟩
      exact (failsAs_emitDeclared_iff htranspiler hkind).2
        ⟨rfl, _, _, hdeclared, hsources, hclass⟩

end Tools

/-- **Which models can be compiled, and which faults are found with the others.**  The tools are
supposed to find no fault with the model itself.  A script is generated just where there are blocks
for the model and for its word breaker, never for a transducer; and of all kinds of faults that a
model itself can have, generation reports that of the format only, in the four cases. -/
theorem generate_classified [OrdinaryFiles σ] {tools : Tools σ}
    (htranspiler : ∀ source s, Ordinary (tools.transpiler source s).1)
    (hbuilder : ∀ lists, Ordinary (tools.trieBuilder lists))
    (s : σ) (l : Layout) (id : Identifier) (m : ModelSource) :
    ((∃ g, (generate s l id m tools).1 = .ok g) ↔
      ∃ model s' breaker s'', ModelCode s l tools m model s' ∧
        BreakerCode s' l tools.transpiler m.wordBreaking breaker s'') ∧
    (∀ kind, kind ≠ .other →
      (FailsAs kind (generate s l id m tools).1 ↔ kind = .format ∧ FormatFault s l tools m)) ∧
    (m.format = "fst-foma-1.0" → ∀ g, (generate s l id m tools).1 ≠ .ok g) := by
  refine ⟨exists_generate_iff,
    fun kind hkind => failsAs_generate_iff htranspiler hbuilder hkind, ?_⟩
  intro htag g hg
  obtain ⟨model, s', breaker, s'', hmodel, -⟩ := exists_generate_iff.1 ⟨g, hg⟩
  cases hmodel with
  | custom hcustom => exact absurd (htag.symm.trans hcustom) (by decide)
  | trie htrie => exact absurd (htag.symm.trans htrie) (by decide)

/-- Without its class the word breaker is a fault of the format, unless the model itself fails first
for want of its source. -/
theorem classless_breaker_classified :
    (∃ g, (generate raggedStore raggedLayout raggedId (raggedModel (some "B")) raggedTools).1 =
      .ok g) ∧
    FailsAs .format (generate raggedStore raggedLayout raggedId (raggedModel none) raggedTools).1 ∧
    ¬FailsAs .format
      (generate Store.empty raggedLayout raggedId (raggedModel none) raggedTools).1 := by
  have htranspiler : ∀ source s, Ordinary (raggedTools.transpiler source s).1 :=
    fun source s => errorIs_ok _ _
  have hbuilder : ∀ lists, Ordinary (raggedTools.trieBuilder lists) :=
    Trie.literal_ordinary Trie.defaultMaxLeaf
  have hclassified := fun s m =>
    generate_classified htranspiler hbuilder s raggedLayout raggedId m
  refine ⟨?_, ?_, ?_⟩
  · exact (hclassified _ _).1.2
      ⟨_, _, _, _, modelCode_raggedStore (some "B"), breakerCode_raggedStore "B"⟩
  · refine ((hclassified _ _).2.1 .format (by decide)).2 ⟨rfl, ?_⟩
    exact .noBreakerClass (modelCode_raggedStore none) rfl rfl rfl
  · intro h
    obtain ⟨-, hfault⟩ := ((hclassified _ _).2.1 .format (by decide)).1 h
    cases hfault with
    | unknownTag htag => exact htag .custom rfl
    | transducer htag => exact absurd htag (by decide)
    | noModelClass _ hclass => cases hclass
    | noBreakerClass hmodel =>
      cases hmodel with
      | custom _ _ htexts =>
        obtain ⟨sources, hsources, -⟩ := htexts
        obtain ⟨source, _, hsource, -, -⟩ := List.forall₂_cons_left_iff.1 hsources
        cases hsource.text
      | trie htag => exact absurd htag (by decide)

end LexicalModel
