import LexicalModel.Identifier
import LexicalModel.Source

/-!
# Package descriptors

What a package says about itself: the version of its form, who made it, the files in it and the
models it brings.  A package carries this record along under the name `kmp.json`.
-/

namespace LexicalModel

open Json (Value Node Break ReadError Decoder)

/-- The author of a package. -/
structure PackageAuthor where
  /-- The author's name. -/
  name : String
  /-- The author's mail address. -/
  email : Option String := none
  deriving DecidableEq, Repr

/-- General information on a package. -/
structure PackageInfo where
  /-- The name of the package. -/
  name : Option String := none
  /-- Who made it. -/
  author : Option PackageAuthor := none
  /-- Its version. -/
  version : Option String := none
  /-- A copyright notice. -/
  copyright : Option String := none
  /-- Where more can be read about it. -/
  website : Option String := none
  /-- What it is. -/
  description : Option String := none
  deriving DecidableEq, Repr

/-- A file of a package. -/
structure PackageFile where
  /-- Its name in the package. -/
  name : String
  /-- What it is for. -/
  description : String := ""
  deriving DecidableEq, Repr

/-- A language of a model. -/
structure PackageLanguage where
  /-- The tag of the language. -/
  id : String
  /-- The name of the language. -/
  name : Option String := none
  deriving DecidableEq, Repr

/-- A model of a package. -/
structure PackageModel where
  /-- The identifier of the model. -/
  id : String
  /-- The name of the model. -/
  name : Option String := none
  /-- The languages it is for. -/
  languages : List PackageLanguage := []
  deriving DecidableEq, Repr

/-- The descriptor of a package. -/
structure PackageDescriptor where
  /-- The version of the package's form. -/
  fileVersion : String := ""
  /-- General information. -/
  info : PackageInfo := {}
  /-- The files. -/
  files : List PackageFile := []
  /-- The models. -/
  lexicalModels : List PackageModel := []
  deriving DecidableEq, Repr

/-! ### Authors -/

namespace PackageAuthor

/-- The author as a record. -/
def toJson (a : PackageAuthor) : Value :=
  .object (("name", .string a.name) :: optionalMember "email" Value.string a.email)

/-- What was read of an author. -/
structure Draft where
  /-- The name, if it was read. -/
  name : Option String := none
  /-- The mail address, if it was read. -/
  email : Option (Option String) := none

/-- Reads one member. -/
def Draft.step (depth : Nat) (d : Draft) (key : String) (n : Node) : Except ReadError Draft :=
  if key = "name" then do
    let name ← Decoder.once key d.name (Decoder.text depth n)
    return { d with name }
  else if key = "email" then do
    let email ← Decoder.once key d.email (Decoder.optional Decoder.text depth n)
    return { d with email }
  else do
    n.pass
    return d

/-- The name of the record in messages. -/
def recordName : String := "PackageAuthor"

/-- Reads an author. -/
def decoder : Decoder PackageAuthor :=
  Decoder.tuple recordName
    (fun depth members broken => do
      let d ← Decoder.members (Draft.step depth) {} members
      Json.endUsed broken
      let name ← Decoder.require "name" d.name
      return { name, email := d.email.join })
    (fun depth items broken => do
      let (name, items) ←
        Decoder.nextItem broken (Decoder.tooShort 0 recordName 2) (Decoder.text depth) items
      let (email, items) ←
        Decoder.nextItem broken (.ok none) (Decoder.optional Decoder.text depth) items
      Decoder.endItems broken items
      return { name, email })

end PackageAuthor

/-! ### General information -/

namespace PackageInfo

/-- The information as a record. -/
def toJson (i : PackageInfo) : Value :=
  .object (optionalMember "name" Value.string i.name ++
    optionalMember "author" PackageAuthor.toJson i.author ++
    optionalMember "version" Value.string i.version ++
    optionalMember "copyright" Value.string i.copyright ++
    optionalMember "website" Value.string i.website ++
    optionalMember "description" Value.string i.description)

/-- What was read of the information. -/
structure Draft where
  /-- The name, if it was read. -/
  name : Option (Option String) := none
  /-- The author, if it was read. -/
  author : Option (Option PackageAuthor) := none
  /-- The version, if it was read. -/
  version : Option (Option String) := none
  /-- The copyright notice, if it was read. -/
  copyright : Option (Option String) := none
  /-- The website, if it was read. -/
  website : Option (Option String) := none
  /-- The description, if it was read. -/
  description : Option (Option String) := none

/-- Reads one member. -/
def Draft.step (depth : Nat) (d : Draft) (key : String) (n : Node) : Except ReadError Draft :=
  if key = "name" then do
    let name ← Decoder.once key d.name (Decoder.optional Decoder.text depth n)
    return { d with name }
  else if key = "author" then do
    let author ← Decoder.once key d.author (Decoder.optional PackageAuthor.decoder depth n)
    return { d with author }
  else if key = "version" then do
    let version ← Decoder.once key d.version (Decoder.optional Decoder.text depth n)
    return { d with version }
  else if key = "copyright" then do
    let copyright ← Decoder.once key d.copyright (Decoder.optional Decoder.text depth n)
    return { d with copyright }
  else if key = "website" then do
    let website ← Decoder.once key d.website (Decoder.optional Decoder.text depth n)
    return { d with website }
  else if key = "description" then do
    let description ← Decoder.once key d.description (Decoder.optional Decoder.text depth n)
    return { d with description }
  else do
    n.pass
    return d

/-- Reads the information. -/
def decoder : Decoder PackageInfo :=
  Decoder.tuple "PackageInfo"
    (fun depth members broken => do
      let d ← Decoder.members (Draft.step depth) {} members
      Json.endUsed broken
      return { name := d.name.join, author := d.author.join, version := d.version.join,
               copyright := d.copyright.join, website := d.website.join,
               description := d.description.join })
    (fun depth items broken => do
      let optionalText := Decoder.optional Decoder.text depth
      let (name, items) ← Decoder.nextItem broken (.ok none) optionalText items
      let (author, items) ←
        Decoder.nextItem broken (.ok none) (Decoder.optional PackageAuthor.decoder depth) items
      let (version, items) ← Decoder.nextItem broken (.ok none) optionalText items
      let (copyright, items) ← Decoder.nextItem broken (.ok none) optionalText items
      let (website, items) ← Decoder.nextItem broken (.ok none) optionalText items
      let (description, items) ← Decoder.nextItem broken (.ok none) optionalText items
      Decoder.endItems broken items
      return { name, author, version, copyright, website, description })

end PackageInfo

/-! ### Files -/

namespace PackageFile

/-- The file as a record. -/
def toJson (f : PackageFile) : Value :=
  .object [("name", .string f.name), ("description", .string f.description)]

/-- What was read of a file. -/
structure Draft where
  /-- The name, if it was read. -/
  name : Option String := none
  /-- The description, if it was read. -/
  description : Option String := none

/-- Reads one member. -/
def Draft.step (depth : Nat) (d : Draft) (key : String) (n : Node) : Except ReadError Draft :=
  if key = "name" then do
    let name ← Decoder.once key d.name (Decoder.text depth n)
    return { d with name }
  else if key = "description" then do
    let description ← Decoder.once key d.description (Decoder.text depth n)
    return { d with description }
  else do
    n.pass
    return d

/-- The name of the record in messages. -/
def recordName : String := "PackageFile"

/-- Reads a file. -/
def decoder : Decoder PackageFile :=
  Decoder.tuple recordName
    (fun depth members broken => do
      let d ← Decoder.members (Draft.step depth) {} members
      Json.endUsed broken
      let name ← Decoder.require "name" d.name
      return { name, description := d.description.getD "" })
    (fun depth items broken => do
      let (name, items) ←
        Decoder.nextItem broken (Decoder.tooShort 0 recordName 2) (Decoder.text depth) items
      let (description, items) ← Decoder.nextItem broken (.ok "") (Decoder.text depth) items
      Decoder.endItems broken items
      return { name, description })

end PackageFile

/-! ### Languages -/

namespace PackageLanguage

/-- The language as a record. -/
def toJson (l : PackageLanguage) : Value :=
  .object (("id", .string l.id) :: optionalMember "name" Value.string l.name)

/-- What was read of a language. -/
structure Draft where
  /-- The tag, if it was read. -/
  id : Option String := none
  /-- The name, if it was read. -/
  name : Option (Option String) := none

/-- Reads one member. -/
def Draft.step (depth : Nat) (d : Draft) (key : String) (n : Node) : Except ReadError Draft :=
  if key = "id" then do
    let id ← Decoder.once key d.id (Decoder.text depth n)
    return { d with id }
  else if key = "name" then do
    let name ← Decoder.once key d.name (Decoder.optional Decoder.text depth n)
    return { d with name }
  else do
    n.pass
    return d

/-- The name of the record in messages. -/
def recordName : String := "PackageLanguage"

/-- Reads a language. -/
def decoder : Decoder PackageLanguage :=
  Decoder.tuple recordName
    (fun depth members broken => do
      let d ← Decoder.members (Draft.step depth) {} members
      Json.endUsed broken
      let id ← Decoder.require "id" d.id
      return { id, name := d.name.join })
    (fun depth items broken => do
      let (id, items) ←
        Decoder.nextItem broken (Decoder.tooShort 0 recordName 2) (Decoder.text depth) items
      let (name, items) ←
        Decoder.nextItem broken (.ok none) (Decoder.optional Decoder.text depth) items
      Decoder.endItems broken items
      return { id, name })

end PackageLanguage

/-! ### Models -/

namespace PackageModel

/-- The model as a record. -/
def toJson (m : PackageModel) : Value :=
  .object (("id", .string m.id) :: optionalMember "name" Value.string m.name ++
    [("languages", .array (m.languages.map PackageLanguage.toJson))])

/-- What was read of a model. -/
structure Draft where
  /-- The identifier, if it was read. -/
  id : Option String := none
  /-- The name, if it was read. -/
  name : Option (Option String) := none
  /-- The languages, if they were read. -/
  languages : Option (List PackageLanguage) := none

/-- Reads one member. -/
def Draft.step (depth : Nat) (d : Draft) (key : String) (n : Node) : Except ReadError Draft :=
  if key = "id" then do
    let id ← Decoder.once key d.id (Decoder.text depth n)
    return { d with id }
  else if key = "name" then do
    let name ← Decoder.once key d.name (Decoder.optional Decoder.text depth n)
    return { d with name }
  else if key = "languages" then do
    let languages ←
      Decoder.once key d.languages (Decoder.list PackageLanguage.decoder depth n)
    return { d with languages }
  else do
    n.pass
    return d

/-- The name of the record in messages. -/
def recordName : String := "PackageLexicalModel"

/-- Reads a model. -/
def decoder : Decoder PackageModel :=
  Decoder.tuple recordName
    (fun depth members broken => do
      let d ← Decoder.members (Draft.step depth) {} members
      Json.endUsed broken
      let id ← Decoder.require "id" d.id
      return { id, name := d.name.join, languages := d.languages.getD [] })
    (fun depth items broken => do
      let (id, items) ←
        Decoder.nextItem broken (Decoder.tooShort 0 recordName 3) (Decoder.text depth) items
      let (name, items) ←
        Decoder.nextItem broken (.ok none) (Decoder.optional Decoder.text depth) items
      let (languages, items) ←
        Decoder.nextItem broken (.ok []) (Decoder.list PackageLanguage.decoder depth) items
      Decoder.endItems broken items
      return { id, name, languages })

end PackageModel

/-! ### Descriptors -/

namespace PackageDescriptor

/-- The name under which a package carries its descriptor along. -/
def fileName : String := "kmp.json"

/-- The version of the form in which packages are written. -/
def currentFileVersion : String := "12.0"

/-- The model of the given identifier. -/
def lexicalModel? (d : PackageDescriptor) (id : Identifier) : Option PackageModel :=
  d.lexicalModels.find? (fun m => m.id = id.text)

/-- The version of the form as a record of its own. -/
def systemJson (fileVersion : String) : Value := .object [("fileVersion", .string fileVersion)]

/-- Reads one member of the record of the version; `old` is what was read before. -/
def systemStep (depth : Nat) (old : Option String) (key : String) (n : Node) :
    Except ReadError (Option String) :=
  if key = "fileVersion" then Decoder.once key old (Decoder.text depth n)
  else do
    n.pass
    return old

/-- Reads the record of the version. -/
def systemDecoder : Decoder String :=
  Decoder.tuple "PackageSystem"
    (fun depth members broken => do
      let version ← Decoder.members (systemStep depth) none members
      Json.endUsed broken
      Decoder.require "fileVersion" version)
    (fun depth items broken => do
      let (version, items) ←
        Decoder.nextItem broken (Decoder.tooShort 0 "PackageSystem" 1) (Decoder.text depth) items
      Decoder.endItems broken items
      return version)

/-- The descriptor as a record. -/
def toJson (d : PackageDescriptor) : Value :=
  .object [("system", systemJson d.fileVersion), ("info", d.info.toJson),
    ("files", .array (d.files.map PackageFile.toJson)),
    ("lexicalModels", .array (d.lexicalModels.map PackageModel.toJson))]

/-- What was read of a descriptor. -/
structure Draft where
  /-- The version, if it was read. -/
  fileVersion : Option String := none
  /-- The information, if it was read. -/
  info : Option PackageInfo := none
  /-- The files, if they were read. -/
  files : Option (List PackageFile) := none
  /-- The models, if they were read. -/
  lexicalModels : Option (List PackageModel) := none

/-- Reads one member. -/
def Draft.step (depth : Nat) (d : Draft) (key : String) (n : Node) : Except ReadError Draft :=
  if key = "system" then do
    let fileVersion ← Decoder.once key d.fileVersion (systemDecoder depth n)
    return { d with fileVersion }
  else if key = "info" then do
    let info ← Decoder.once key d.info (PackageInfo.decoder depth n)
    return { d with info }
  else if key = "files" then do
    let files ← Decoder.once key d.files (Decoder.list PackageFile.decoder depth n)
    return { d with files }
  else if key = "lexicalModels" then do
    let lexicalModels ←
      Decoder.once key d.lexicalModels (Decoder.list PackageModel.decoder depth n)
    return { d with lexicalModels }
  else do
    n.pass
    return d

/-- The name of the record in messages. -/
def recordName : String := "PackageDescriptor"

/-- Reads a descriptor. -/
def decoder : Decoder PackageDescriptor :=
  Decoder.tuple recordName
    (fun depth members broken => do
      let d ← Decoder.members (Draft.step depth) {} members
      Json.endUsed broken
      let fileVersion ← Decoder.require "system" d.fileVersion
      let info ← Decoder.require "info" d.info
      let files ← Decoder.require "files" d.files
      let lexicalModels ← Decoder.require "lexicalModels" d.lexicalModels
      return { fileVersion, info, files, lexicalModels })
    (fun depth items broken => do
      let (fileVersion, items) ←
        Decoder.nextItem broken (Decoder.tooShort 0 recordName 4) (systemDecoder depth) items
      let (info, items) ←
        Decoder.nextItem broken (Decoder.tooShort 1 recordName 4) (PackageInfo.decoder depth) items
      let (files, items) ←
        Decoder.nextItem broken (Decoder.tooShort 2 recordName 4)
          (Decoder.list PackageFile.decoder depth) items
      let (lexicalModels, items) ←
        Decoder.nextItem broken (Decoder.tooShort 3 recordName 4)
          (Decoder.list PackageModel.decoder depth) items
      Decoder.endItems broken items
      return { fileVersion, info, files, lexicalModels })

end PackageDescriptor

end LexicalModel
