import LexicalModel.FileSystem.Store
import LexicalModel.Generator
import LexicalModel.Proofs.Failure

/-!
# What a script is made of

A script is made block by block.  A block is a line of the generator's own, or what the transpiler
makes of the sources that the author listed.  First come the blocks of the model, as its format
asks, and then those of the word breaker, if the model declares one.  The relations here say which
blocks these are, without going through the steps that make them; the lemmas say that the steps
succeed just where there are such blocks, and with these.

* `Compiles` : sources that can be read and transpiled, and what becomes of them
* `Block` : a block of code
* `ModelCode`, `BreakerCode` : the blocks of a model and of its word breaker
* `emitModel_eq_ok_iff`, `emitWordBreaker_eq_ok_iff` : the steps that make them
* `generate_eq_ok_iff` : the whole script
-/

namespace LexicalModel

open Result (andThen andThen_eq_ok_iff)

/-! ### Sources -/

/-- The transpiler makes `texts` of the sources, one after the other; it finds files kept as `s` and
leaves them as `s'`. -/
inductive Transpiler.Makes {σ : Type} (t : Transpiler σ) :
    List SourceFile → σ → List String → σ → Prop
  | nil (s : σ) : Makes t [] s [] s
  | cons {source : SourceFile} {rest : List SourceFile} {s s' s'' : σ} {text : String}
      {texts : List String} :
    t source s = (.ok text, s') → Makes t rest s' texts s'' →
    Makes t (source :: rest) s (text :: texts) s''

namespace Transpiler

variable {σ : Type} {t : Transpiler σ} {s s' : σ}

/-- A transpiler that looks at nothing but the source makes its text of each, and changes
nothing. -/
theorem makes_ofFunction_iff {f : SourceFile → Result String} {sources : List SourceFile}
    {texts : List String} :
    (ofFunction f).Makes sources s texts s' ↔
      List.Forall₂ (fun source text => f source = .ok text) sources texts ∧ s' = s := by
  constructor
  · intro h
    induction h with
    | nil s => exact ⟨.nil, rfl⟩
    | cons hone _ ih =>
      obtain ⟨htext, rfl⟩ := Prod.mk.inj hone
      exact ⟨.cons htext ih.1, ih.2⟩
  · rintro ⟨h, rfl⟩
    induction h with
    | nil => exact .nil s'
    | cons hone _ ih => exact .cons (Prod.ext hone rfl) ih

theorem one_eq_ok_iff {source : SourceFile} {text : String} :
    t.one source s = (.ok text, s') ↔ t source s = (.ok text, s') := by
  unfold one
  obtain ⟨x, u⟩ := t source s
  cases x with
  | error f => simp [Result.within]
  | ok a => simp [Result.within]

theorem texts_eq_ok_iff {sources : List SourceFile} {texts : List String} :
    t.texts sources s = (.ok texts, s') ↔ t.Makes sources s texts s' := by
  induction sources generalizing s s' texts with
  | nil =>
    constructor
    · intro h
      cases h
      exact .nil _
    · intro h
      cases h
      rfl
  | cons source rest ih =>
    simp only [Transpiler.texts, andThen_eq_ok_iff, one_eq_ok_iff, ih]
    constructor
    · rintro ⟨text, s₁, hone, texts, s₂, hrest, h⟩
      cases h
      exact .cons hone hrest
    · rintro (_ | ⟨hone, hrest⟩)
      exact ⟨_, _, hone, _, _, hrest, rfl⟩

theorem all_eq_ok_iff {sources : List SourceFile} {code : String} :
    t.all sources s = (.ok code, s') ↔
      ∃ texts, t.Makes sources s texts s' ∧ code = "\n".intercalate texts := by
  simp only [all, andThen_eq_ok_iff, texts_eq_ok_iff]
  constructor
  · rintro ⟨texts, s₁, hmakes, h⟩
    cases h
    exact ⟨texts, hmakes, rfl⟩
  · rintro ⟨texts, hmakes, rfl⟩
    exact ⟨texts, s', hmakes, rfl⟩

end Transpiler

theorem Emission.transpile_eq_ok_iff {σ : Type} {t : Transpiler σ} {sources : List SourceFile}
    {e e' : Emission σ} {code : String} :
    e.transpile t sources = (.ok code, e') ↔
      ∃ texts s', t.Makes sources e.files texts s' ∧ code = "\n".intercalate texts ∧
        e' = { e with files := s' } := by
  have hall : ∀ s', (t.all sources e.files = (.ok code, s') ↔
      ∃ texts, t.Makes sources e.files texts s' ∧ code = "\n".intercalate texts) :=
    fun s' => Transpiler.all_eq_ok_iff
  constructor
  · intro h
    obtain ⟨hcode, rfl⟩ := Prod.mk.inj h
    obtain ⟨texts, hmakes, hjoined⟩ := (hall _).1 (Prod.ext hcode rfl)
    exact ⟨texts, _, hmakes, hjoined, rfl⟩
  · rintro ⟨texts, s', hmakes, hjoined, rfl⟩
    simp only [Emission.transpile, (hall s').2 ⟨texts, hmakes, hjoined⟩]

variable {σ : Type} [FileSystem σ] {s s' : σ} {l : Layout}

/-- The source at a reference. -/
structure IsSourceAt (s : σ) (l : Layout) (reference : String) (source : SourceFile) : Prop where
  /-- It lies where the reference says. -/
  path : source.path = l.sourceFile reference
  /-- It can be read as text. -/
  text : FileSystem.readText s (l.sourceFile reference) = .ok source.text

theorem readSource_eq_ok_iff {reference : String} {source : SourceFile} :
    readSource s l reference = .ok source ↔ IsSourceAt s l reference source := by
  constructor
  · intro h
    obtain ⟨text, htext, h⟩ := ok_of_bind h
    cases h
    exact ⟨rfl, Result.ok_of_within htext⟩
  · rintro ⟨hpath, htext⟩
    obtain ⟨path, text⟩ := source
    cases hpath
    simp only [readSource, htext]
    rfl

theorem readSources_eq_ok_iff {references : List String} {sources : List SourceFile} :
    readSources s l references = .ok sources ↔
      List.Forall₂ (IsSourceAt s l) references sources := by
  simp only [readSources, mapM_eq_ok_iff, readSource_eq_ok_iff]

/-- The sources at the references can be read, and the transpiler makes `texts` of them, in the
order of the references. -/
def Compiles (s : σ) (l : Layout) (t : Transpiler σ) (references : List String)
    (texts : List String) (s' : σ) : Prop :=
  ∃ sources, List.Forall₂ (IsSourceAt s l) references sources ∧ t.Makes sources s texts s'

theorem Compiles.unique {s₁ s₂ : σ} {t : Transpiler σ} {references texts₁ texts₂ : List String}
    (h₁ : Compiles s l t references texts₁ s₁) (h₂ : Compiles s l t references texts₂ s₂) :
    texts₁ = texts₂ ∧ s₁ = s₂ := by
  obtain ⟨sources, hsources, hmakes₁⟩ := h₁
  obtain ⟨_, hsources₂, hmakes₂⟩ := h₂
  cases (readSources_eq_ok_iff.2 hsources).symm.trans (readSources_eq_ok_iff.2 hsources₂)
  have htexts := Transpiler.texts_eq_ok_iff.2 hmakes₁
  cases htexts.symm.trans (Transpiler.texts_eq_ok_iff.2 hmakes₂)
  exact ⟨rfl, rfl⟩

/-! ### Blocks -/

/-- A block of code. -/
inductive Block where
  /-- A line of the generator's own. -/
  | line (text : String)
  /-- What the transpiler made of listed sources. -/
  | sources (texts : List String)
  deriving DecidableEq, Repr

/-- The code of a block, as it is added to a script. -/
def Block.code : Block → String
  | line text => text
  | sources texts => "\n".intercalate texts

/-- Adds several blocks. -/
def Script.addAll (script : Script) (blocks : List Block) : Script :=
  blocks.foldl (fun script b => script.push b.code) script

theorem Script.addAll_append (script : Script) (blocks blocks' : List Block) :
    script.addAll (blocks ++ blocks') = (script.addAll blocks).addAll blocks' :=
  List.foldl_append

/-- The blocks of a model, by its format.  There are none for a transducer. -/
inductive ModelCode (s : σ) (l : Layout) (tools : Tools σ) (m : ModelSource) :
    List Block → σ → Prop
  /-- A class that the author wrote: it is named, and its sources can be compiled. -/
  | custom {rootClass : String} {texts : List String} {s' : σ} (htag : m.format = "custom-1.0")
    (hclass : m.rootClass = some rootClass)
    (htexts : Compiles s l tools.transpiler m.sources texts s') :
    ModelCode s l tools m [.line "LMLayerWorker.registerModel(function() \x7b\x7d);",
      .sources texts, .line ("LMLayerWorker.loadModel(new " ++ rootClass ++ "());")] s'
  /-- A trie: the word lists can be read, and the builder makes a literal of them, in order. -/
  | trie {lists : List SourceFile} {literal : String} (htag : m.format = "trie-1.0")
    (hlists : List.Forall₂ (IsSourceAt s l) m.sources lists)
    (hliteral : tools.trieBuilder lists = .ok literal) :
    ModelCode s l tools m
      [.line ("LMLayerWorker.loadModel(new models.TrieModel(" ++ literal ++ "));")] s

theorem ModelCode.exists_format {tools : Tools σ} {m : ModelSource} {blocks : List Block}
    (h : ModelCode s l tools m blocks s') : ∃ format : ModelFormat, m.format = format.tag := by
  cases h with
  | custom htag => exact ⟨.custom, htag⟩
  | trie htag => exact ⟨.trie, htag⟩

/-- The blocks of a word breaker, as the model declares it. -/
inductive BreakerCode (s : σ) (l : Layout) (t : Transpiler σ) :
    Option WordBreaking → List Block → σ → Prop
  /-- The model declares none. -/
  | absent : BreakerCode s l t none [] s
  /-- It lists no sources: the default one, with its configuration. -/
  | default {w : WordBreaking} (hsources : w.sources = none) :
    BreakerCode s l t (some w)
      [.line ("LMLayerWorker.loadWordBreaker(new wordBreakers.DefaultWordBreaker(" ++
        w.withoutSources.toJson.compact ++ "));")] s
  /-- It lists sources, maybe none: the class is named, and they can be compiled. -/
  | custom {w : WordBreaking} {references : List String} {rootClass : String} {texts : List String}
    {s' : σ} (hsources : w.sources = some references) (hclass : w.rootClass = some rootClass)
    (htexts : Compiles s l t references texts s') :
    BreakerCode s l t (some w)
      [.sources texts, .line ("LMLayerWorker.loadWordBreaker(new " ++ rootClass ++ "());")] s'

/-- A model has its blocks only. -/
theorem ModelCode.unique {tools : Tools σ} {m : ModelSource} {blocks₁ blocks₂ : List Block}
    {s₁ s₂ : σ} (h₁ : ModelCode s l tools m blocks₁ s₁) (h₂ : ModelCode s l tools m blocks₂ s₂) :
    blocks₁ = blocks₂ ∧ s₁ = s₂ := by
  cases h₁ with
  | custom htag hclass htexts =>
    cases h₂ with
    | custom _ hclass₂ htexts₂ =>
      cases hclass.symm.trans hclass₂
      obtain ⟨rfl, rfl⟩ := htexts.unique htexts₂
      exact ⟨rfl, rfl⟩
    | trie htag₂ => exact absurd (htag.symm.trans htag₂) (by decide)
  | trie htag hlists hliteral =>
    cases h₂ with
    | custom htag₂ => exact absurd (htag.symm.trans htag₂) (by decide)
    | trie _ hlists₂ hliteral₂ =>
      cases (readSources_eq_ok_iff.2 hlists).symm.trans (readSources_eq_ok_iff.2 hlists₂)
      cases hliteral.symm.trans hliteral₂
      exact ⟨rfl, rfl⟩

theorem BreakerCode.unique {t : Transpiler σ} {declared : Option WordBreaking}
    {blocks₁ blocks₂ : List Block} {s₁ s₂ : σ} (h₁ : BreakerCode s l t declared blocks₁ s₁)
    (h₂ : BreakerCode s l t declared blocks₂ s₂) : blocks₁ = blocks₂ ∧ s₁ = s₂ := by
  cases h₁ with
  | absent =>
    cases h₂
    exact ⟨rfl, rfl⟩
  | default hsources =>
    cases h₂ with
    | default => exact ⟨rfl, rfl⟩
    | custom hsources₂ => cases hsources.symm.trans hsources₂
  | custom hsources hclass htexts =>
    cases h₂ with
    | default hsources₂ => cases hsources.symm.trans hsources₂
    | custom hsources₂ hclass₂ htexts₂ =>
      cases hsources.symm.trans hsources₂
      cases hclass.symm.trans hclass₂
      obtain ⟨rfl, rfl⟩ := htexts.unique htexts₂
      exact ⟨rfl, rfl⟩

/-! ### The steps that make them -/

theorem requireRootClass_eq_ok_iff {part : String} {declared : Option String} {rootClass : String} :
    requireRootClass part declared = .ok rootClass ↔ declared = some rootClass := by
  cases declared with
  | none => simp [requireRootClass, Result.fail]
  | some a => simp [requireRootClass]

/-- A step that leaves the state alone. -/
theorem pair_eq_ok_iff {α τ : Type} {x : Result α} {a : α} {u u' : τ} :
    (x, u) = (.ok a, u') ↔ x = .ok a ∧ u' = u := by
  rw [Prod.mk.injEq, eq_comm (a := u)]

theorem ModelFormat.parse_eq_ok_iff {tag : String} {format : ModelFormat} :
    parse tag = .ok format ↔ tag = format.tag := by
  constructor
  · intro h
    unfold parse at h
    split at h
    · next f hfind =>
      cases h
      have hfound := List.find?_some hfind
      exact (of_decide_eq_true hfound).symm
    · cases h
  · rintro rfl
    cases format <;> decide

theorem emitCustom_eq_ok_iff {t : Transpiler σ} {m : ModelSource} {script script' : Script} :
    emitCustom s l t m script = (.ok script', s') ↔
      ∃ rootClass texts, m.rootClass = some rootClass ∧ Compiles s l t m.sources texts s' ∧
        script' = script.addAll
          [.line registration, .sources texts, .line (loadModelLine rootClass)] := by
  simp only [emitCustom, andThen_eq_ok_iff, pair_eq_ok_iff, requireRootClass_eq_ok_iff,
    readSources_eq_ok_iff, Transpiler.all_eq_ok_iff]
  constructor
  · rintro ⟨rootClass, _, ⟨hclass, rfl⟩, sources, _, ⟨hsources, rfl⟩, _, _, ⟨texts, hmakes, rfl⟩,
      h, rfl⟩
    cases h
    exact ⟨rootClass, texts, hclass, ⟨sources, hsources, hmakes⟩, rfl⟩
  · rintro ⟨rootClass, texts, hclass, ⟨sources, hsources, hmakes⟩, rfl⟩
    exact ⟨rootClass, s, ⟨hclass, rfl⟩, sources, s, ⟨hsources, rfl⟩, _, s', ⟨texts, hmakes, rfl⟩,
      rfl, rfl⟩

theorem emitTransducer_ne_ok {m : ModelSource} {script : Script} :
    emitTransducer s l m ≠ .ok script := by
  intro h
  obtain ⟨bytes, -, h⟩ := ok_of_bind h
  cases h

theorem emitTrie_eq_ok_iff {builder : List SourceFile → Result String} {m : ModelSource}
    {script script' : Script} :
    emitTrie s l builder m script = .ok script' ↔
      ∃ lists literal, List.Forall₂ (IsSourceAt s l) m.sources lists ∧
        builder lists = .ok literal ∧ script' = script.addAll [.line (loadTrieLine literal)] := by
  constructor
  · intro h
    obtain ⟨lists, hlists, h⟩ := ok_of_bind h
    obtain ⟨literal, hliteral, h⟩ := ok_of_bind h
    cases h
    exact ⟨lists, literal, readSources_eq_ok_iff.1 hlists, hliteral, rfl⟩
  · rintro ⟨lists, literal, hlists, hliteral, rfl⟩
    rw [emitTrie, readSources_eq_ok_iff.2 hlists, ok_bind, hliteral]
    rfl

/-- **The step of a format succeeds just where there are blocks for the model.** -/
theorem emitModel_eq_ok_iff {tools : Tools σ} {m : ModelSource} {format : ModelFormat}
    (hformat : m.format = format.tag) {script script' : Script} :
    emitModel s l tools m script format = (.ok script', s') ↔
      ∃ blocks, ModelCode s l tools m blocks s' ∧ script' = script.addAll blocks := by
  cases format with
  | custom =>
    rw [emitModel, emitCustom_eq_ok_iff]
    constructor
    · rintro ⟨rootClass, texts, hclass, htexts, rfl⟩
      exact ⟨_, .custom hformat hclass htexts, rfl⟩
    · rintro ⟨_, ⟨-, hclass, htexts⟩ | ⟨htag, -, -⟩, rfl⟩
      · exact ⟨_, _, hclass, htexts, rfl⟩
      · exact absurd (hformat.symm.trans htag) (by decide)
  | fstFoma =>
    constructor
    · intro h
      exact absurd (pair_eq_ok_iff.1 h).1 emitTransducer_ne_ok
    · rintro ⟨_, ⟨htag, -, -⟩ | ⟨htag, -, -⟩, -⟩
      · exact absurd (hformat.symm.trans htag) (by decide)
      · exact absurd (hformat.symm.trans htag) (by decide)
  | trie =>
    rw [emitModel, pair_eq_ok_iff, emitTrie_eq_ok_iff]
    constructor
    · rintro ⟨⟨lists, literal, hlists, hliteral, rfl⟩, rfl⟩
      exact ⟨_, .trie hformat hlists hliteral, rfl⟩
    · rintro ⟨_, ⟨htag, -, -⟩ | ⟨-, hlists, hliteral⟩, rfl⟩
      · exact absurd (hformat.symm.trans htag) (by decide)
      · exact ⟨⟨_, _, hlists, hliteral, rfl⟩, rfl⟩

/-- **The word breaker is added just where there are blocks for it**, and then the sources are taken
out of its description. -/
theorem emitWordBreaker_eq_ok_iff {t : Transpiler σ} {w : WordBreaking} {script : Script}
    {e : Emission σ} :
    emitWordBreaker l t ⟨w, script, s⟩ = (.ok (), e) ↔
      ∃ blocks s', BreakerCode s l t (some w) blocks s' ∧
        e = ⟨w.withoutSources, script.addAll blocks, s'⟩ := by
  cases hsources : w.sources with
  | none =>
    simp only [emitWordBreaker, hsources, Prod.mk.injEq, true_and]
    constructor
    · rintro rfl
      exact ⟨_, s, .default hsources, rfl⟩
    · rintro ⟨blocks, s', hcode, rfl⟩
      cases hcode with
      | default => rfl
      | custom hcustom => cases hsources.symm.trans hcustom
  | some references =>
    simp only [emitWordBreaker, hsources, andThen_eq_ok_iff, pair_eq_ok_iff,
      requireRootClass_eq_ok_iff, readSources_eq_ok_iff, Emission.transpile_eq_ok_iff]
    constructor
    · rintro ⟨rootClass, _, ⟨hclass, rfl⟩, sources, _, ⟨hread, rfl⟩, _, _,
        ⟨texts, s', hmakes, rfl, rfl⟩, -, rfl⟩
      exact ⟨_, s', .custom hsources hclass ⟨sources, hread, hmakes⟩, rfl⟩
    · rintro ⟨blocks, s', hcode, rfl⟩
      cases hcode with
      | default hdefault => cases hsources.symm.trans hdefault
      | custom hcustom hclass htexts =>
        cases hsources.symm.trans hcustom
        obtain ⟨sources, hread, hmakes⟩ := htexts
        exact ⟨_, _, ⟨hclass, rfl⟩, sources, _, ⟨hread, rfl⟩, _, _, ⟨_, s', hmakes, rfl, rfl⟩,
          trivial, rfl⟩

theorem emitDeclared_eq_ok_iff {t : Transpiler σ} {declared left : Option WordBreaking}
    {script script' : Script} :
    emitDeclared s l t script declared = (.ok (script', left), s') ↔
      ∃ blocks, BreakerCode s l t declared blocks s' ∧ script' = script.addAll blocks ∧
        left = declared.map WordBreaking.withoutSources := by
  cases declared with
  | none =>
    simp only [emitDeclared]
    constructor
    · intro h
      cases h
      exact ⟨[], .absent, rfl, rfl⟩
    · rintro ⟨blocks, hcode, rfl, rfl⟩
      cases hcode
      rfl
  | some w =>
    constructor
    · intro h
      simp only [emitDeclared] at h
      rcases hemitted : emitWordBreaker l t ⟨w, script, s⟩ with ⟨result, e⟩
      rw [hemitted] at h
      cases result with
      | error f => cases h
      | ok _ =>
        -- script and description are taken from what the emission has become
        obtain ⟨blocks, s', hcode, rfl⟩ := emitWordBreaker_eq_ok_iff.1 hemitted
        cases h
        exact ⟨blocks, hcode, rfl, rfl⟩
    · rintro ⟨blocks, hcode, rfl, rfl⟩
      simp only [emitDeclared, emitWordBreaker_eq_ok_iff.2 ⟨blocks, s', hcode, rfl⟩]
      rfl

/-- What a script that was generated has to do with the blocks that it is made of. -/
structure IsGenerated (id : Identifier) (m : ModelSource) (blocks : List Block)
    (g : GeneratedModel) : Prop where
  /-- The blocks are the script. -/
  script : g.script = (Script.addAll {} blocks).finish
  /-- The identifier is the given one. -/
  id : g.model.id = id
  /-- The format is the one that the description names. -/
  format : m.format = g.model.format.tag
  /-- The word-breaking part is the author's, without its sources. -/
  wordBreaking : g.model.wordBreaking = m.wordBreaking.map WordBreaking.withoutSources

/-- **A script is generated just where there are blocks for the model and for its word breaker.** -/
theorem generate_eq_ok_iff {id : Identifier} {m : ModelSource} {tools : Tools σ}
    {g : GeneratedModel} :
    generate s l id m tools = (.ok g, s') ↔
      ∃ model s₁ breaker, ModelCode s l tools m model s₁ ∧
        BreakerCode s₁ l tools.transpiler m.wordBreaking breaker s' ∧
        IsGenerated id m (model ++ breaker) g := by
  simp only [generate, andThen_eq_ok_iff, pair_eq_ok_iff, ModelFormat.parse_eq_ok_iff]
  constructor
  · rintro ⟨format, _, ⟨hformat, rfl⟩, script, s₁, hmodel, ⟨script', left⟩, s₂, hdeclared, h, rfl⟩
    obtain ⟨model, hcode, rfl⟩ := (emitModel_eq_ok_iff hformat).1 hmodel
    obtain ⟨breaker, hbreaker, rfl, rfl⟩ := emitDeclared_eq_ok_iff.1 hdeclared
    cases h
    refine ⟨model, s₁, breaker, hcode, hbreaker, ?_, rfl, hformat, rfl⟩
    rw [Script.addAll_append]
  · rintro ⟨model, s₁, breaker, hcode, hbreaker, hscript, rfl, hformat, hbreaking⟩
    refine ⟨g.model.format, s, ⟨hformat, rfl⟩, _, s₁,
      (emitModel_eq_ok_iff hformat).2 ⟨model, hcode, rfl⟩, (_, _), s',
      emitDeclared_eq_ok_iff.2 ⟨breaker, hbreaker, rfl, rfl⟩, ?_, rfl⟩
    rw [← Script.addAll_append, ← hscript, ← hbreaking]

theorem exists_generate_iff {id : Identifier} {m : ModelSource} {tools : Tools σ} :
    (∃ g, (generate s l id m tools).1 = .ok g) ↔
      ∃ model s₁ breaker s₂, ModelCode s l tools m model s₁ ∧
        BreakerCode s₁ l tools.transpiler m.wordBreaking breaker s₂ := by
  constructor
  · rintro ⟨g, hg⟩
    obtain ⟨model, s₁, breaker, hmodel, hbreaker, -⟩ := generate_eq_ok_iff.1 (Prod.ext hg rfl)
    exact ⟨model, s₁, breaker, _, hmodel, hbreaker⟩
  · rintro ⟨model, s₁, breaker, s₂, hmodel, hbreaker⟩
    obtain ⟨format, hformat⟩ := hmodel.exists_format
    have hgenerated : IsGenerated id m (model ++ breaker)
        ⟨(Script.addAll {} (model ++ breaker)).finish,
          ⟨id, format, m.wordBreaking.map WordBreaking.withoutSources⟩⟩ :=
      ⟨rfl, rfl, hformat, rfl⟩
    have hgenerate := generate_eq_ok_iff.2 ⟨model, s₁, breaker, hmodel, hbreaker, hgenerated⟩
    exact ⟨_, congrArg Prod.fst hgenerate⟩

/-! ### A model with ragged sources -/

/-- The directories of a model. -/
def raggedLayout : Layout := ⟨.ofText "/m/build", .ofText "/m"⟩

/-- Its identifier. -/
def raggedId : Identifier := ⟨"tatters", "ga", "ragged", rfl, rfl, rfl⟩

/-- Its sources: a comment whose line does not end, no text at all, and a line of its own. -/
def raggedStore : Store :=
  ((Store.empty.insert (.ofText "/m/source/a.js") (Text.Utf8.encode "// a")).insert
    (.ofText "/m/source/b.js") (Text.Utf8.encode "")).insert
    (.ofText "/m/source/c.js") (Text.Utf8.encode "c\r\n")

/-- Sources are taken for script text. -/
def raggedTools : Tools Store := ⟨.passThrough, Trie.literal Trie.defaultMaxLeaf⟩

/-- The model lists one of its sources twice, and its word breaker lists none. -/
def raggedModel (breakerClass : Option String) : ModelSource where
  format := "custom-1.0"
  sources := ["a.js", "b.js", "c.js", "a.js"]
  rootClass := some "A"
  wordBreaking := some { sources := some [], rootClass := breakerClass }

theorem isSourceAt_raggedStore :
    (IsSourceAt raggedStore raggedLayout "a.js" ⟨raggedLayout.sourceFile "a.js", "// a"⟩ ∧
      IsSourceAt raggedStore raggedLayout "b.js" ⟨raggedLayout.sourceFile "b.js", ""⟩) ∧
      IsSourceAt raggedStore raggedLayout "c.js" ⟨raggedLayout.sourceFile "c.js", "c\r\n"⟩ := by
  refine ⟨⟨⟨rfl, ?_⟩, ⟨rfl, ?_⟩⟩, ⟨rfl, ?_⟩⟩ <;> decide +kernel

theorem modelCode_raggedStore (breakerClass : Option String) :
    ModelCode raggedStore raggedLayout raggedTools (raggedModel breakerClass)
      [.line "LMLayerWorker.registerModel(function() \x7b\x7d);",
        .sources ["// a", "", "c\r\n", "// a"], .line "LMLayerWorker.loadModel(new A());"]
      raggedStore := by
  have hclass : (raggedModel breakerClass).rootClass = some "A" := rfl
  refine .custom rfl hclass ⟨[⟨raggedLayout.sourceFile "a.js", "// a"⟩,
    ⟨raggedLayout.sourceFile "b.js", ""⟩, ⟨raggedLayout.sourceFile "c.js", "c\r\n"⟩,
    ⟨raggedLayout.sourceFile "a.js", "// a"⟩], ?_, ?_⟩
  · obtain ⟨⟨ha, hb⟩, hc⟩ := isSourceAt_raggedStore
    exact .cons ha (.cons hb (.cons hc (.cons ha .nil)))
  · refine Transpiler.makes_ofFunction_iff.2 ⟨?_, rfl⟩
    exact .cons rfl (.cons rfl (.cons rfl (.cons rfl .nil)))

theorem breakerCode_raggedStore (breakerClass : String) :
    BreakerCode raggedStore raggedLayout raggedTools.transpiler
      (raggedModel (some breakerClass)).wordBreaking
      [.sources [], .line ("LMLayerWorker.loadWordBreaker(new " ++ breakerClass ++ "());")]
      raggedStore :=
  .custom rfl rfl ⟨[], .nil, .nil _⟩

end LexicalModel
