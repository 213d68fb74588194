import LexicalModel.Identifier
import LexicalModel.Path.Reference

/-!
# Layout of a model's directory

A model lives in `<group>/<author>/<bcp47>.<uniq>/`, with the author's sources in `source/` and
everything that is made from them in `build/`.
-/

namespace LexicalModel

/-- The name of the directory that a model is built in. -/
def buildDirName : String := "build"

/-- The name of the directory of the author's sources. -/
def sourceDirName : String := "source"

/-- The end of a model info file's name. -/
def infoSuffix : String := ".model_info"

/-- The name of a project's own configuration file. -/
def projectConfigName : String := "kmlmc.json"

/-- The directories of one model. -/
structure Layout where
  /-- Where the model is built. -/
  buildDir : Path
  /-- The directory above it, which holds the model. -/
  modelDir : Path
  deriving DecidableEq, Repr

namespace Layout

/-- The layout around a build directory. -/
def ofBuildDir (buildDir : Path) : Result Layout :=
  match buildDir.parent? with
  | some modelDir => .ok ⟨buildDir, modelDir⟩
  | none => Result.fail (.noParent buildDir)

variable (l : Layout) (id : Identifier)

/-- The directory of the author's sources. -/
def sourceDir : Path := l.modelDir.entry sourceDirName

/-- The author's model info file. -/
def infoPath : Path := l.modelDir.entry (id.text ++ infoSuffix)

/-- The description of the model. -/
def modelSourcePath : Path := l.sourceDir.entry (id.text ++ ".model.json")

/-- The package project. -/
def packageSourcePath : Path := l.sourceDir.entry (id.text ++ ".model.kps")

/-- The file that a reference in the author's sources denotes. -/
def sourceFile (reference : String) : Path := l.sourceDir.resolve reference

/-- The name of the script. -/
def scriptName : String := id.text ++ ".model.js"

/-- The name of the package. -/
def packageName : String := id.text ++ ".model.kmp"

/-- Where the script is written. -/
def scriptPath : Path := l.buildDir.entry (scriptName id)

/-- Where the package is written. -/
def packagePath : Path := l.buildDir.entry (packageName id)

/-- Where the manifest is written. -/
def manifestPath : Path := l.buildDir.entry (id.text ++ infoSuffix)

/-- The project's own configuration file. -/
def projectConfigPath : Path := l.modelDir.entry projectConfigName

end Layout

end LexicalModel
