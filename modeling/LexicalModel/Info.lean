import LexicalModel.FileSystem.Basic
import LexicalModel.Source

/-!
# Model info

The record that is published with a model.  The author may give any part of it; what is missing is
filled in when the model is built.  Members the library does not know are carried along.

* `ModelInfo` : the record
* `ModelInfo.decoder`, `ModelInfo.toJson` : how it is read and written
-/

namespace LexicalModel

open Json (Value Node ReadError Decoder)

/-- What is published about a model. -/
structure ModelInfo where
  /-- The identifier. -/
  id : Option String := none
  /-- The name that users see. -/
  name : Option String := none
  /-- The license. -/
  license : Option String := none
  /-- The version. -/
  version : Option String := none
  /-- The languages. -/
  languages : Option (List String) := none
  /-- The author's name. -/
  authorName : Option String := none
  /-- The author's mail address. -/
  authorEmail : Option String := none
  /-- What the model is. -/
  description : Option String := none
  /-- When the model was changed last. -/
  lastModifiedDate : Option String := none
  /-- The name of the package. -/
  packageFilename : Option String := none
  /-- The size of the package. -/
  packageFileSize : Option Nat := none
  /-- The name of the script. -/
  jsFilename : Option String := none
  /-- The size of the script. -/
  jsFileSize : Option Nat := none
  /-- What the package includes besides the model. -/
  packageIncludes : Option (List String) := none
  /-- The oldest runtime that can use the model. -/
  minKeymanVersion : Option String := none
  /-- Where the sources are. -/
  sourcePath : Option String := none
  /-- Members that the library does not know, sorted by key. -/
  extra : List (String × Value) := []
  deriving Repr, Inhabited

namespace ModelInfo

/-- What was read of a record: a field that was read holds what was found, which may be `null`. -/
structure Draft where
  /-- The identifier. -/
  id : Option (Option String) := none
  /-- The name that users see. -/
  name : Option (Option String) := none
  /-- The license. -/
  license : Option (Option String) := none
  /-- The version. -/
  version : Option (Option String) := none
  /-- The languages. -/
  languages : Option (Option (List String)) := none
  /-- The author's name. -/
  authorName : Option (Option String) := none
  /-- The author's mail address. -/
  authorEmail : Option (Option String) := none
  /-- What the model is. -/
  description : Option (Option String) := none
  /-- When the model was changed last. -/
  lastModifiedDate : Option (Option String) := none
  /-- The name of the package. -/
  packageFilename : Option (Option String) := none
  /-- The size of the package. -/
  packageFileSize : Option (Option Nat) := none
  /-- The name of the script. -/
  jsFilename : Option (Option String) := none
  /-- The size of the script. -/
  jsFileSize : Option (Option Nat) := none
  /-- What the package includes besides the model. -/
  packageIncludes : Option (Option (List String)) := none
  /-- The oldest runtime that can use the model. -/
  minKeymanVersion : Option (Option String) := none
  /-- Where the sources are. -/
  sourcePath : Option (Option String) := none
  /-- Members that the library does not know, sorted by key. -/
  extra : List (String × Value) := []

/-- A size in bytes. -/
def size : Decoder Nat := Decoder.unsigned "u64" Json.maxUnsigned

/-- Reads one member. -/
def Draft.step (depth : Nat) (d : Draft) (key : String) (n : Node) : Except ReadError Draft :=
  if key = "id" then do
    let id ← Decoder.once key d.id (Decoder.optional Decoder.text depth n)
    return { d with id }
  else if key = "name" then do
    let name ← Decoder.once key d.name (Decoder.optional Decoder.text depth n)
    return { d with name }
  else if key = "license" then do
    let license ← Decoder.once key d.license (Decoder.optional Decoder.text depth n)
    return { d with license }
  else if key = "version" then do
    let version ← Decoder.once key d.version (Decoder.optional Decoder.text depth n)
    return { d with version }
  else if key = "languages" then do
    let languages ←
      Decoder.once key d.languages (Decoder.optional (Decoder.list Decoder.text) depth n)
    return { d with languages }
  else if key = "authorName" then do
    let authorName ← Decoder.once key d.authorName (Decoder.optional Decoder.text depth n)
    return { d with authorName }
  else if key = "authorEmail" then do
    let authorEmail ← Decoder.once key d.authorEmail (Decoder.optional Decoder.text depth n)
    return { d with authorEmail }
  else if key = "description" then do
    let description ← Decoder.once key d.description (Decoder.optional Decoder.text depth n)
    return { d with description }
  else if key = "lastModifiedDate" then do
    let lastModifiedDate ←
      Decoder.once key d.lastModifiedDate (Decoder.optional Decoder.text depth n)
    return { d with lastModifiedDate }
  else if key = "packageFilename" then do
    let packageFilename ← Decoder.once key d.packageFilename (Decoder.optional Decoder.text depth n)
    return { d with packageFilename }
  else if key = "packageFileSize" then do
    let packageFileSize ← Decoder.once key d.packageFileSize (Decoder.optional size depth n)
    return { d with packageFileSize }
  else if key = "jsFilename" then do
    let jsFilename ← Decoder.once key d.jsFilename (Decoder.optional Decoder.text depth n)
    return { d with jsFilename }
  else if key = "jsFileSize" then do
    let jsFileSize ← Decoder.once key d.jsFileSize (Decoder.optional size depth n)
    return { d with jsFileSize }
  else if key = "packageIncludes" then do
    let packageIncludes ←
      Decoder.once key d.packageIncludes (Decoder.optional (Decoder.list Decoder.text) depth n)
    return { d with packageIncludes }
  else if key = "minKeymanVersion" then do
    let minKeymanVersion ←
      Decoder.once key d.minKeymanVersion (Decoder.optional Decoder.text depth n)
    return { d with minKeymanVersion }
  else if key = "sourcePath" then do
    let sourcePath ← Decoder.once key d.sourcePath (Decoder.optional Decoder.text depth n)
    return { d with sourcePath }
  else do
    let v ← Decoder.value depth n
    return { d with extra := Json.insertMember key v d.extra }

/-- The record that a draft holds. -/
def Draft.finish (d : Draft) : ModelInfo where
  id := d.id.join
  name := d.name.join
  license := d.license.join
  version := d.version.join
  languages := d.languages.join
  authorName := d.authorName.join
  authorEmail := d.authorEmail.join
  description := d.description.join
  lastModifiedDate := d.lastModifiedDate.join
  packageFilename := d.packageFilename.join
  packageFileSize := d.packageFileSize.join
  jsFilename := d.jsFilename.join
  jsFileSize := d.jsFileSize.join
  packageIncludes := d.packageIncludes.join
  minKeymanVersion := d.minKeymanVersion.join
  sourcePath := d.sourcePath.join
  extra := d.extra

/-- Reads the record. -/
def decoder : Decoder ModelInfo :=
  Decoder.record "ModelInfo" fun depth members broken => do
    let d ← Decoder.members (Draft.step depth) {} members
    Json.endUsed broken
    return d.finish

/-- The fields that are there, in order. -/
def members (m : ModelInfo) : List (String × Value) :=
  optionalMember "id" Value.string m.id ++
  optionalMember "name" Value.string m.name ++
  optionalMember "license" Value.string m.license ++
  optionalMember "version" Value.string m.version ++
  optionalMember "languages" Value.strings m.languages ++
  optionalMember "authorName" Value.string m.authorName ++
  optionalMember "authorEmail" Value.string m.authorEmail ++
  optionalMember "description" Value.string m.description ++
  optionalMember "lastModifiedDate" Value.string m.lastModifiedDate ++
  optionalMember "packageFilename" Value.string m.packageFilename ++
  optionalMember "packageFileSize" Value.nat m.packageFileSize ++
  optionalMember "jsFilename" Value.string m.jsFilename ++
  optionalMember "jsFileSize" Value.nat m.jsFileSize ++
  optionalMember "packageIncludes" Value.strings m.packageIncludes ++
  optionalMember "minKeymanVersion" Value.string m.minKeymanVersion ++
  optionalMember "sourcePath" Value.string m.sourcePath

/-- The record, the fields first. -/
def toJson (m : ModelInfo) : Value := .object (m.members ++ m.extra)

/-- The record as it is published. -/
def render (m : ModelInfo) : String := m.toJson.pretty

/-- The record in a file. -/
def load {σ : Type} [FileSystem σ] (s : σ) (p : Path) : Result ModelInfo := do
  let text ← FileSystem.readText s p
  Result.within (.parseModelInfo p) (Result.ofCause .json (Json.decodeText decoder text))

end ModelInfo

end LexicalModel
