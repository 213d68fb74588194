import LexicalModel.FileSystem.Basic
import LexicalModel.Source
import LexicalModel.Text.Blank

/-!
# Configuration

The settings of the compiler are an optional record.  It is looked for at the path that was asked
for, else in the model's directory, else in the user's configuration directory; without any, the
defaults hold.

* `Config` : the settings
* `Config.validate` : whether they can be used
* `Config.resolve` : the settings that hold for a build
-/

namespace LexicalModel

open Json (Value Node Break ReadError Decoder)

/-- The settings of the compiler. -/
structure Config where
  /-- The version of the record. -/
  schemaVersion : Nat := 1
  /-- The oldest runtime, recorded where the model info has none. -/
  minKeymanVersion : String := "12.0"
  /-- The license, recorded where the model info has none. -/
  defaultLicense : String := "mit"
  /-- The command that transpiles custom sources. -/
  transpiler : Option String := none
  /-- What is put in front of the recorded path of the sources. -/
  sourcePathPrefix : Option String := none
  deriving DecidableEq, Repr, Inhabited

namespace Config

/-- What was read of the settings. -/
structure Draft where
  /-- The version, if it was read. -/
  schemaVersion : Option Nat := none
  /-- The oldest runtime, if it was read. -/
  minKeymanVersion : Option String := none
  /-- The license, if it was read. -/
  defaultLicense : Option String := none
  /-- The command, if it was read. -/
  transpiler : Option (Option String) := none
  /-- The path in front, if it was read. -/
  sourcePathPrefix : Option (Option String) := none

/-- The keys of the settings. -/
def keys : List String :=
  ["schema_version", "min_keyman_version", "default_license", "transpiler", "source_path_prefix"]

/-- A version number. -/
def version : Decoder Nat := Decoder.unsigned "u32" (Nat.pow 2 32 - 1)

/-- Reads one member; others than the settings are refused. -/
def Draft.step (depth : Nat) (d : Draft) (key : String) (n : Node) : Except ReadError Draft :=
  if key = "schema_version" then do
    let schemaVersion ← Decoder.once key d.schemaVersion (version depth n)
    return { d with schemaVersion }
  else if key = "min_keyman_version" then do
    let minKeymanVersion ← Decoder.once key d.minKeymanVersion (Decoder.text depth n)
    return { d with minKeymanVersion }
  else if key = "default_license" then do
    let defaultLicense ← Decoder.once key d.defaultLicense (Decoder.text depth n)
    return { d with defaultLicense }
  else if key = "transpiler" then do
    let transpiler ← Decoder.once key d.transpiler (Decoder.optional Decoder.text depth n)
    return { d with transpiler }
  else if key = "source_path_prefix" then do
    let sourcePathPrefix ←
      Decoder.once key d.sourcePathPrefix (Decoder.optional Decoder.text depth n)
    return { d with sourcePathPrefix }
  else .error (.data (.unknownField key keys))

/-- The defaults. -/
def default : Config := {}

/-- Reads the settings from the members of an object. -/
def ofMembers (depth : Nat) (members : List (Option String × Node)) (broken : Option Break) :
    Except ReadError Config := do
  let d ← Decoder.members (Draft.step depth) {} members
  Json.endUsed broken
  return { schemaVersion := d.schemaVersion.getD default.schemaVersion,
           minKeymanVersion := d.minKeymanVersion.getD default.minKeymanVersion,
           defaultLicense := d.defaultLicense.getD default.defaultLicense,
           transpiler := d.transpiler.join,
           sourcePathPrefix := d.sourcePathPrefix.join }

/-- Reads the settings from the items of an array. -/
def ofItems (depth : Nat) (items : List Node) (broken : Option Break) :
    Except ReadError Config := do
  let (schemaVersion, items) ←
    Decoder.nextItem broken (.ok default.schemaVersion) (version depth) items
  let (minKeymanVersion, items) ←
    Decoder.nextItem broken (.ok default.minKeymanVersion) (Decoder.text depth) items
  let (defaultLicense, items) ←
    Decoder.nextItem broken (.ok default.defaultLicense) (Decoder.text depth) items
  let (transpiler, items) ←
    Decoder.nextItem broken (.ok none) (Decoder.optional Decoder.text depth) items
  let (sourcePathPrefix, items) ←
    Decoder.nextItem broken (.ok none) (Decoder.optional Decoder.text depth) items
  Decoder.endItems broken items
  return { schemaVersion, minKeymanVersion, defaultLicense, transpiler, sourcePathPrefix }

/-- Reads the settings. -/
def decoder : Decoder Config := Decoder.tuple "CompilerConfig" ofMembers ofItems

/-- The settings as a record. -/
def toJson (c : Config) : Value :=
  .object ([("schema_version", Value.nat c.schemaVersion),
      ("min_keyman_version", .string c.minKeymanVersion),
      ("default_license", .string c.defaultLicense)] ++
    optionalMember "transpiler" Value.string c.transpiler ++
    optionalMember "source_path_prefix" Value.string c.sourcePathPrefix)

/-- Whether the settings can be used; the first one that cannot is reported. -/
def validate (c : Config) : Result Unit :=
  if c.schemaVersion ≠ default.schemaVersion then Result.fail (.unsupportedSchema c.schemaVersion)
  else if Text.blank c.minKeymanVersion then Result.fail (.blankSetting "min_keyman_version")
  else if Text.blank c.defaultLicense then Result.fail (.blankSetting "default_license")
  else if c.transpiler.any Text.blank then Result.fail (.blankOptionalSetting "transpiler")
  else if c.sourcePathPrefix.any Text.blank then
    Result.fail (.blankOptionalSetting "source_path_prefix")
  else .ok ()

/-- The settings in a file. -/
def load {σ : Type} [FileSystem σ] (s : σ) (p : Path) : Result Config := do
  let bytes ← Result.within (.readConfig p) (FileSystem.read s p)
  let c ← Result.within (.parseConfig p) (Result.ofCause .json (Json.decodeBytes decoder bytes))
  Result.within (.validateConfig p) c.validate
  return c

/-- The user's configuration file in the user's configuration directory. -/
def userPath (configDir : Path) : Path := (configDir.entry "kmlmc").entry "config.json"

/-- The settings that hold: of the file that was asked for, else of the first of the project's and
the user's file that exists, else the defaults. -/
def resolve {σ : Type} [FileSystem σ] (s : σ) (explicit : Option Path) (project : Path)
    (configDir : Option Path) : Result Config :=
  match explicit with
  | some p => load s p
  | none =>
    match (project :: (configDir.map userPath).toList).find? (FileSystem.isFile s) with
    | some p => load s p
    | none => .ok default

end Config

end LexicalModel
