import LexicalModel.FileSystem.Basic
import LexicalModel.Layout

/-!
# Identity of a model

The one model info file in a model's directory names the model, and the path of the build directory
has to say the same: `.../<group>/<author>/<bcp47>.<uniq>/build`.

* `Location.check` : the location that a build directory gives a model
* `Identity.resolve` : the identity of the model that is built in a directory
-/

namespace LexicalModel

/-- Where a model lives. -/
structure Location where
  /-- The collection of models. -/
  group : String
  /-- The directory of the author. -/
  author : String
  /-- The directory of the model, `<bcp47>.<uniq>`. -/
  language : String
  deriving DecidableEq, Repr

namespace Location

/-- The location as a path below the place of all groups. -/
def sourcePath (l : Location) : String := l.group ++ "/" ++ l.author ++ "/" ++ l.language

/-- The names in a path as they are shown, last first. -/
def namesUpwards (p : Path) : List String :=
  p.components.reverse.filterMap fun
    | .name bytes => some (Text.Utf8.lossy bytes)
    | _ => none

/-- The identifier that the directories above a build directory spell; empty where there are too
few. -/
def spelledId : List String → String
  | _ :: language :: author :: _ => author ++ "." ++ language
  | _ => ""

/-- The location of a model that is built in `buildDir`, which has to spell the model's
identifier. -/
def check (buildDir : Path) (id : Identifier) : Result Location :=
  let names := namesUpwards buildDir
  let mismatch : Result Location := Result.fail (.pathMismatch id.text (spelledId names))
  match names with
  | dir :: language :: author :: group :: _ =>
    if dir = buildDirName ∧ author ++ "." ++ language = id.text then .ok ⟨group, author, language⟩
    else mismatch
  | _ => mismatch

/-- The location as a record. -/
def toJson (l : Location) : Json.Value :=
  .object [("group", .string l.group), ("author", .string l.author),
    ("language", .string l.language)]

end Location

/-- A model's identifier and where it lives. -/
structure Identity where
  /-- The identifier. -/
  id : Identifier
  /-- The location. -/
  location : Location
  deriving DecidableEq, Repr

/-- The file name ends like that of a model info file. -/
def isInfoName (name : String) : Bool := infoSuffix.toList.isSuffixOf name.toList

/-- The one model info file among the names of files in `dir`. -/
def selectInfoName (dir : Path) (names : List String) : Result String :=
  match names.filter isInfoName with
  | [only] => .ok only
  | found => Result.fail (.infoFileCount dir infoSuffix found.length)

namespace Identity

/-- The name of a model info file without its end. -/
def stem (name : String) : String :=
  String.ofList (name.toList.take (name.toList.length - infoSuffix.toList.length))

/-- The identity of the model that is built in a directory. -/
def resolve {σ : Type} [FileSystem σ] (s : σ) (l : Layout) : Result Identity := do
  let names ← FileSystem.listFiles s l.modelDir
  let name ← selectInfoName l.modelDir names
  let id ← Identifier.parse (stem name)
  let location ← Location.check l.buildDir id
  return ⟨id, location⟩

/-- The identity as a record. -/
def toJson (i : Identity) : Json.Value :=
  .object [("id", .string i.id.text), ("location", i.location.toJson)]

end Identity

end LexicalModel
