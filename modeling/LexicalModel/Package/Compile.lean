import LexicalModel.FileSystem.Basic
import LexicalModel.Layout
import LexicalModel.Package.Archive
import LexicalModel.Package.Project

/-!
# Compiling packages

A package holds the files that its project lists, each under its own name, and its descriptor as
last entry.

* `CompiledPackage.compile` : the package of a project
* `packageIncludes` : what a package includes besides the model
-/

namespace LexicalModel

/-- A package that is ready to be archived. -/
structure CompiledPackage where
  /-- The entries of the archive, the descriptor last. -/
  entries : List ArchiveEntry
  /-- The descriptor. -/
  descriptor : PackageDescriptor

namespace CompiledPackage

/-- The name of a listed file in the package; it must not be taken. -/
def entryName (taken : List String) (f : ProjectFile) : Result String :=
  let name := Reference.fileName f.source
  if name = PackageDescriptor.fileName ∨ name ∈ taken then Result.fail (.duplicatePackageFile name)
  else .ok name

/-- The entries of listed files, in order; `taken` holds the names in use. -/
def collect {σ : Type} [FileSystem σ] (s : σ) (base : Path) (taken : List String) :
    List ProjectFile → Result (List ArchiveEntry)
  | [] => .ok []
  | f :: fs => do
    let name ← entryName taken f
    let bytes ← Result.within (.readPackageFile f.source)
      (FileSystem.read s (base.resolve f.source))
    let rest ← collect s base (name :: taken) fs
    return ⟨name, bytes⟩ :: rest

/-- The package of a project whose text stands at `path`. -/
def compile {σ : Type} [FileSystem σ] (s : σ) (path : Path) (text : String) :
    Result CompiledPackage := do
  let project ← Result.within (.parsePackageSource path)
    (Result.ofCause id (PackageProject.parse text))
  if project.lexicalModels = [] then Result.fail (.noLexicalModels path)
  let base := path.parent?.getD (.ofText ".")
  let entries ← collect s base [] project.files
  let descriptor : PackageDescriptor :=
    { fileVersion := PackageDescriptor.currentFileVersion
      info := project.info
      files := List.zipWith (fun e f => ⟨e.name, f.description⟩) entries project.files
      lexicalModels := project.lexicalModels }
  let metadata := Text.Utf8.encode descriptor.toJson.pretty
  return ⟨entries ++ [⟨PackageDescriptor.fileName, metadata⟩], descriptor⟩

end CompiledPackage

/-- The ends of the names of fonts, in small letters. -/
def fontSuffixes : List String := [".ttf", ".otf", ".ttc", ".woff", ".woff2"]

/-- The name is that of a font. -/
def isFontName (name : String) : Bool :=
  let cs := name.toList.map Char.toLower
  fontSuffixes.any fun suffix => suffix.toList.isSuffixOf cs

/-- What a package with files of the given names includes besides the model. -/
def packageIncludes (names : List String) : List String :=
  if names.any isFontName then ["fonts"] else []

end LexicalModel
