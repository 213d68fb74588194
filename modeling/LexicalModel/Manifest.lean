import LexicalModel.Config
import LexicalModel.Identity
import LexicalModel.Info
import LexicalModel.Package.Compile
import LexicalModel.Timestamp

/-!
# Manifests

The manifest of a build is the author's model info with every blank field filled in: from the
package, else with what is known of the model.  What the author gave stays.  Sizes and the list of
what the package includes are always those of the build.

* `fill` : a field, or the first candidate that can replace a blank one
* `ModelInfo.merge` : the manifest
-/

namespace LexicalModel

/-- What a build knows about a model. -/
structure BuildFacts where
  /-- The identifier. -/
  id : Identifier
  /-- Where the model lives. -/
  location : Location
  /-- The descriptor of the package. -/
  package : PackageDescriptor
  /-- The size of the package. -/
  packageFileSize : Nat
  /-- The size of the script. -/
  jsFileSize : Nat
  /-- When the model was built. -/
  now : Timestamp
  /-- The settings. -/
  config : Config

/-- The text, unless it is blank. -/
def nonBlank? (s : String) : Option String := if Text.blank s then none else some s

/-- A field, or the first candidate that is not blank where the field is. -/
def fill (field : Option String) (candidates : List (Option String)) : Option String :=
  match field.bind nonBlank? with
  | some s => some s
  | none => (candidates.findSome? (·.bind nonBlank?)).or field

/-- The version that is recorded where nobody gives one. -/
def fallbackVersion : String := "1.0"

/-- The text without slashes at the end. -/
def dropFinalSlashes (s : String) : String :=
  String.ofList (s.toList.reverse.dropWhile (· = '/')).reverse

namespace BuildFacts

/-- The package's entry for the model. -/
def model? (f : BuildFacts) : Option PackageModel := f.package.lexicalModel? f.id

/-- The languages of the model: those that the package gives, else the one of the identifier. -/
def languages (f : BuildFacts) : List String :=
  match (f.model?.map fun m => m.languages.map PackageLanguage.id).getD [] with
  | [] => [f.id.bcp47]
  | languages => languages

/-- The recorded path of the sources. -/
def sourcePath (f : BuildFacts) : String :=
  match f.config.sourcePathPrefix with
  | some front => dropFinalSlashes front ++ "/" ++ f.location.sourcePath
  | none => f.location.sourcePath

end BuildFacts

namespace ModelInfo

/-- The model info with its blank fields filled in and its sizes recomputed. -/
def merge (info : ModelInfo) (f : BuildFacts) : ModelInfo :=
  let author := f.package.info.author
  let name := fill info.name [f.model?.bind PackageModel.name, f.package.info.name, some f.id.text]
  { info with
    id := fill info.id [some f.id.text]
    name := name
    license := fill info.license [some f.config.defaultLicense]
    version := fill info.version [f.package.info.version, some fallbackVersion]
    languages := some (if info.languages.getD [] = [] then f.languages else info.languages.getD [])
    authorName := fill info.authorName [author.map PackageAuthor.name, some f.id.author]
    authorEmail := (fill info.authorEmail [author.bind PackageAuthor.email]).or (some "")
    description := fill info.description [f.package.info.description, name]
    lastModifiedDate := fill info.lastModifiedDate [some f.now.render]
    packageFilename := fill info.packageFilename [some (Layout.packageName f.id)]
    packageFileSize := some f.packageFileSize
    jsFilename := fill info.jsFilename [some (Layout.scriptName f.id)]
    jsFileSize := some f.jsFileSize
    packageIncludes := some (LexicalModel.packageIncludes (f.package.files.map PackageFile.name))
    minKeymanVersion := fill info.minKeymanVersion [some f.config.minKeymanVersion]
    sourcePath := fill info.sourcePath [some f.sourcePath] }

end ModelInfo

end LexicalModel
