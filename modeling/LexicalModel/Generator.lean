import LexicalModel.Script
import LexicalModel.Transpiler
import LexicalModel.Trie

/-!
# Generating scripts

The format of a model decides how its script loads it: custom sources are transpiled and their class
is loaded, word lists become a trie.  After that comes the word breaker, one that the author wrote
or the default one with its configuration.

* `Tools` : what generation is done with
* `Emission`, `emitWordBreaker` : the word breaker's part of a script
* `generate` : the script of a model
-/

namespace LexicalModel

/-- What models are compiled with. -/
structure Tools (σ : Type) where
  /-- Turns sources into script text. -/
  transpiler : Transpiler σ
  /-- Turns word lists into the literal of a trie. -/
  trieBuilder : List SourceFile → Result String

/-- A model that was compiled. -/
structure CompiledModel where
  /-- The identifier. -/
  id : Identifier
  /-- The format. -/
  format : ModelFormat
  /-- How it breaks words, without sources. -/
  wordBreaking : Option WordBreaking

/-- A script and the model it loads. -/
structure GeneratedModel where
  /-- The script. -/
  script : String
  /-- The model. -/
  model : CompiledModel

/-- Says that a custom model follows. -/
def registration : String := "LMLayerWorker.registerModel(function() \x7b\x7d);"

/-- Loads the class of a custom model. -/
def loadModelLine (rootClass : String) : String :=
  "LMLayerWorker.loadModel(new " ++ rootClass ++ "());"

/-- Loads a trie. -/
def loadTrieLine (literal : String) : String :=
  "LMLayerWorker.loadModel(new models.TrieModel(" ++ literal ++ "));"

/-- Loads the class of a word breaker. -/
def loadWordBreakerLine (rootClass : String) : String :=
  "LMLayerWorker.loadWordBreaker(new " ++ rootClass ++ "());"

/-- Loads the default word breaker with its configuration. -/
def defaultWordBreakerLine (config : String) : String :=
  "LMLayerWorker.loadWordBreaker(new wordBreakers.DefaultWordBreaker(" ++ config ++ "));"

/-- The class that a part written by the author has to name. -/
def requireRootClass (part : String) : Option String → Result String
  | some rootClass => .ok rootClass
  | none => Result.fail (.missingRootClass part)

/-- The word breaker's part of a script in the making. -/
structure Emission (σ : Type) where
  /-- How the model breaks words. -/
  wordBreaking : WordBreaking
  /-- The script so far. -/
  script : Script
  /-- Where files are kept. -/
  files : σ

namespace Emission

variable {σ : Type}

/-- Takes the sources out of the description. -/
def dropSources (e : Emission σ) : Emission σ :=
  { e with wordBreaking := e.wordBreaking.withoutSources }

/-- Adds a block of code to the script. -/
def push (e : Emission σ) (code : String) : Emission σ := { e with script := e.script.push code }

/-- The script text of sources. -/
def transpile (t : Transpiler σ) (sources : List SourceFile) (e : Emission σ) :
    Result String × Emission σ :=
  let made := t.all sources e.files
  (made.1, { e with files := made.2 })

end Emission

variable {σ : Type} [FileSystem σ]

open Result (andThen)

/-- Adds the word breaker to a script.  Its sources are of use here only: they are taken out of the
description before anything else is done, so that no configuration shows them. -/
def emitWordBreaker (l : Layout) (t : Transpiler σ) (e : Emission σ) : Result Unit × Emission σ :=
  let rest := e.dropSources
  match e.wordBreaking.sources with
  | some sources =>
    andThen (requireRootClass "custom word breaker" rest.wordBreaking.rootClass, rest)
      fun rootClass e =>
        andThen (readSources e.files l sources, e) fun files e =>
          andThen (e.transpile t files) fun code e =>
            (.ok (), (e.push code).push (loadWordBreakerLine rootClass))
  | none => (.ok (), rest.push (defaultWordBreakerLine rest.wordBreaking.toJson.compact))

/-- Adds the word breaker that a model declares, if it does; gives the script and what is left of
the declaration. -/
def emitDeclared (s : σ) (l : Layout) (t : Transpiler σ) (script : Script) :
    Option WordBreaking → Result (Script × Option WordBreaking) × σ
  | some w =>
    let emitted := emitWordBreaker l t ⟨w, script, s⟩
    (emitted.1.map fun _ => (emitted.2.script, some emitted.2.wordBreaking), emitted.2.files)
  | none => (.ok (script, none), s)

/-- Adds a custom model to a script. -/
def emitCustom (s : σ) (l : Layout) (t : Transpiler σ) (m : ModelSource) (script : Script) :
    Result Script × σ :=
  andThen (requireRootClass "custom-1.0 model" m.rootClass, s) fun rootClass s =>
    andThen (readSources s l m.sources, s) fun files s =>
      andThen (t.all files s) fun code s =>
        (.ok (((script.push registration).push code).push (loadModelLine rootClass)), s)

/-- Transducers are read, but no script can load them. -/
def emitTransducer (s : σ) (l : Layout) (m : ModelSource) : Result Script := do
  let _ ← m.sources.mapM fun reference => FileSystem.read s (l.sourceFile reference)
  Result.fail (.unimplementedFormat ModelFormat.fstFoma.tag)

/-- Adds a trie to a script. -/
def emitTrie (s : σ) (l : Layout) (builder : List SourceFile → Result String) (m : ModelSource)
    (script : Script) : Result Script := do
  let files ← readSources s l m.sources
  let literal ← builder files
  return script.push (loadTrieLine literal)

/-- Adds a model to a script, as its format asks. -/
def emitModel (s : σ) (l : Layout) (tools : Tools σ) (m : ModelSource) (script : Script) :
    ModelFormat → Result Script × σ
  | .custom => emitCustom s l tools.transpiler m script
  | .fstFoma => (emitTransducer s l m, s)
  | .trie => (emitTrie s l tools.trieBuilder m script, s)

/-- The script of a model. -/
def generate (s : σ) (l : Layout) (id : Identifier) (m : ModelSource) (tools : Tools σ) :
    Result GeneratedModel × σ :=
  andThen (ModelFormat.parse m.format, s) fun format s =>
    andThen (emitModel s l tools m {} format) fun script s =>
      andThen (emitDeclared s l tools.transpiler script m.wordBreaking)
        fun (script, wordBreaking) s => (.ok ⟨script.finish, ⟨id, format, wordBreaking⟩⟩, s)

end LexicalModel
