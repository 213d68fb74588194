import LexicalModel.Generator
import LexicalModel.Manifest

/-!
# Building models

A build reads what the author provides, writes the script, then the package and last the manifest.
The first failure ends it; what was written stays.

* `BuildRequest` : what is to be built, and with what
* `prepare`, `bundle` : the parts of a build that write none of its files
* `build` : a build
-/

namespace LexicalModel

/-- Where the description of a model comes from. -/
inductive SourceInput where
  /-- From its usual place. -/
  | layout
  /-- From a file. -/
  | file (p : Path)
  /-- It is given. -/
  | loaded (m : ModelSource)

/-- What is to be built, and with what. -/
structure BuildRequest (σ : Type) where
  /-- The directory to build in. -/
  buildDir : Path
  /-- Where the description of the model comes from. -/
  input : SourceInput := .layout
  /-- The settings. -/
  config : Config := {}
  /-- The time of the build. -/
  now : Timestamp
  /-- What the script is made with. -/
  tools : Tools σ
  /-- How a package is archived. -/
  archive : Archiver

/-- What a build has made. -/
structure BuildOutcome where
  /-- The model. -/
  identity : Identity
  /-- Where the script is. -/
  scriptPath : Path
  /-- Where the package is. -/
  packagePath : Path
  /-- Where the manifest is. -/
  manifestPath : Path
  /-- What the manifest says. -/
  modelInfo : ModelInfo

/-- A package and its archive. -/
structure Bundle where
  /-- The package. -/
  package : CompiledPackage
  /-- Its archive. -/
  archive : ByteArray

/-- What is known before anything is written. -/
structure Prepared where
  /-- The directories. -/
  layout : Layout
  /-- The model. -/
  identity : Identity
  /-- What the author says about it. -/
  info : ModelInfo
  /-- The script and the model it loads. -/
  generated : GeneratedModel

variable {σ : Type} [FileSystem σ]

open Result (andThen)

/-- The description of a model. -/
def SourceInput.load (s : σ) (l : Layout) (id : Identifier) : SourceInput → Result ModelSource
  | .layout => ModelSource.load s (l.modelSourcePath id)
  | .file p => ModelSource.load s p
  | .loaded m => .ok m

/-- What is read about a model before its script is generated. -/
def gather (s : σ) (r : BuildRequest σ) : Result (Layout × Identity × ModelInfo × ModelSource) := do
  let l ← Layout.ofBuildDir r.buildDir
  let identity ← Identity.resolve s l
  let info ← ModelInfo.load s (l.infoPath identity.id)
  let source ← r.input.load s l identity.id
  return (l, identity, info, source)

/-- Reads the model and generates its script. -/
def prepare (s : σ) (r : BuildRequest σ) : Result Prepared × σ :=
  andThen (gather s r, s) fun (l, identity, info, source) s =>
    andThen (generate s l identity.id source r.tools) fun generated s =>
      (.ok ⟨l, identity, info, generated⟩, s)

/-- Reads the package project, collects its files and archives them. -/
def bundle (s : σ) (archive : Archiver) (l : Layout) (id : Identifier) : Result Bundle := do
  let path := l.packageSourcePath id
  let text ← FileSystem.readText s path
  let package ← CompiledPackage.compile s path text
  let archived ← archive package.entries
  return ⟨package, archived⟩

/-- The manifest, once script and package are written. -/
def conclude (s : σ) (r : BuildRequest σ) (p : Prepared) (package : PackageDescriptor) :
    Result ModelInfo := do
  let packageFileSize ← FileSystem.fileSize s (p.layout.packagePath p.identity.id)
  let jsFileSize ← FileSystem.fileSize s (p.layout.scriptPath p.identity.id)
  return p.info.merge
    { id := p.identity.id, location := p.identity.location, package, packageFileSize, jsFileSize,
      now := r.now, config := r.config }

/-- Builds a model. -/
def build (s : σ) (r : BuildRequest σ) : Result BuildOutcome × σ :=
  andThen (prepare s r) fun p s =>
    let id := p.identity.id
    let scriptPath := p.layout.scriptPath id
    let packagePath := p.layout.packagePath id
    let manifestPath := p.layout.manifestPath id
    andThen (FileSystem.write s scriptPath (Text.Utf8.encode p.generated.script)) fun _ s =>
      andThen (bundle s r.archive p.layout id, s) fun b s =>
        andThen (FileSystem.write s packagePath b.archive) fun _ s =>
          andThen (conclude s r p b.package.descriptor, s) fun modelInfo s =>
            andThen (FileSystem.write s manifestPath (Text.Utf8.encode modelInfo.render))
              fun _ s => (.ok ⟨p.identity, scriptPath, packagePath, manifestPath, modelInfo⟩, s)

end LexicalModel
