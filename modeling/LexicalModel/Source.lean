import LexicalModel.FileSystem.Basic
import LexicalModel.Layout

/-!
# Model descriptions

The author describes a model in a small record: its format, the sources it is made of, the class
that custom sources define, and how text is broken into words.  Everything else in the word-breaking
part is configuration for the word breaker and is kept as it is.

* `ModelFormat` : the formats of models
* `ModelSource`, `WordBreaking` : the record, how it is read and written
* `readSources` : the texts of listed sources
-/

namespace LexicalModel

/-- The formats of models. -/
inductive ModelFormat where
  /-- A class written by the author. -/
  | custom
  /-- A finite-state transducer. -/
  | fstFoma
  /-- A trie made from word lists. -/
  | trie
  deriving DecidableEq, Repr

namespace ModelFormat

/-- The tag of a format. -/
def tag : ModelFormat → String
  | custom => "custom-1.0"
  | fstFoma => "fst-foma-1.0"
  | trie => "trie-1.0"

/-- All formats. -/
def all : List ModelFormat := [custom, fstFoma, trie]

/-- The format of a tag. -/
def parse (tag : String) : Result ModelFormat :=
  match all.find? (fun f => f.tag = tag) with
  | some f => .ok f
  | none => Result.fail (.unknownFormat tag)

end ModelFormat

/-- How a model breaks text into words. -/
structure WordBreaking where
  /-- The sources of a word breaker written by the author. -/
  sources : Option (List String) := none
  /-- The class that they define. -/
  rootClass : Option String := none
  /-- Configuration for the word breaker, sorted by key. -/
  config : List (String × Json.Value) := []
  deriving Repr, Inhabited

/-- The description of a model.  The format stays a tag, so that an unknown one is a fault of the
format and not of the record. -/
structure ModelSource where
  /-- The tag of the format. -/
  format : String
  /-- The sources, in order. -/
  sources : List String := []
  /-- The class that custom sources define. -/
  rootClass : Option String := none
  /-- How text is broken into words. -/
  wordBreaking : Option WordBreaking := none
  deriving Repr, Inhabited

/-- A member that is written only when it is there. -/
def optionalMember {α : Type} (key : String) (toJson : α → Json.Value) :
    Option α → List (String × Json.Value)
  | some a => [(key, toJson a)]
  | none => []

open Json (Value Node Break ReadError Decoder)

namespace WordBreaking

/-- What was read of a word-breaking part. -/
structure Draft where
  /-- The sources, if they were read. -/
  sources : Option (Option (List String)) := none
  /-- The class, if it was read. -/
  rootClass : Option (Option String) := none
  /-- The configuration, sorted by key. -/
  config : List (String × Value) := []

/-- Reads one member. -/
def Draft.step (depth : Nat) (d : Draft) (key : String) (n : Node) : Except ReadError Draft :=
  if key = "sources" then do
    let sources ← Decoder.once key d.sources (Decoder.optional (Decoder.list Decoder.text) depth n)
    return { d with sources }
  else if key = "rootClass" then do
    let rootClass ← Decoder.once key d.rootClass (Decoder.optional Decoder.text depth n)
    return { d with rootClass }
  else do
    let v ← Decoder.value depth n
    return { d with config := Json.insertMember key v d.config }

/-- Reads a word-breaking part. -/
def decoder : Decoder WordBreaking :=
  Decoder.record "WordBreakingSource" fun depth members broken => do
    let d ← Decoder.members (Draft.step depth) {} members
    Json.endUsed broken
    return { sources := d.sources.join, rootClass := d.rootClass.join, config := d.config }

/-- The word-breaking part as a record. -/
def toJson (w : WordBreaking) : Value :=
  .object (optionalMember "sources" Value.strings w.sources ++
    optionalMember "rootClass" Value.string w.rootClass ++ w.config)

/-- The part without its sources, which are of no use once the model is compiled. -/
def withoutSources (w : WordBreaking) : WordBreaking := { w with sources := none }

end WordBreaking

namespace ModelSource

/-- What was read of a description. -/
structure Draft where
  /-- The tag of the format, if it was read. -/
  format : Option String := none
  /-- The sources, if they were read. -/
  sources : Option (List String) := none
  /-- The class, if it was read. -/
  rootClass : Option (Option String) := none
  /-- The word-breaking part, if it was read. -/
  wordBreaking : Option (Option WordBreaking) := none

/-- Reads one member. -/
def Draft.step (depth : Nat) (d : Draft) (key : String) (n : Node) : Except ReadError Draft :=
  if key = "format" then do
    let format ← Decoder.once key d.format (Decoder.text depth n)
    return { d with format }
  else if key = "sources" then do
    let sources ← Decoder.once key d.sources (Decoder.list Decoder.text depth n)
    return { d with sources }
  else if key = "rootClass" then do
    let rootClass ← Decoder.once key d.rootClass (Decoder.optional Decoder.text depth n)
    return { d with rootClass }
  else if key = "wordBreaking" then do
    let wordBreaking ←
      Decoder.once key d.wordBreaking (Decoder.optional WordBreaking.decoder depth n)
    return { d with wordBreaking }
  else do
    n.pass
    return d

/-- The name of the record in messages. -/
def recordName : String := "LexicalModelSource"

/-- Reads a description from the members of an object. -/
def ofMembers (depth : Nat) (members : List (Option String × Node)) (broken : Option Break) :
    Except ReadError ModelSource := do
  let d ← Decoder.members (Draft.step depth) {} members
  Json.endUsed broken
  let format ← Decoder.require "format" d.format
  return { format, sources := d.sources.getD [], rootClass := d.rootClass.join,
           wordBreaking := d.wordBreaking.join }

/-- Reads a description from the items of an array. -/
def ofItems (depth : Nat) (items : List Node) (broken : Option Break) :
    Except ReadError ModelSource := do
  let (format, items) ←
    Decoder.nextItem broken (Decoder.tooShort 0 recordName 4) (Decoder.text depth) items
  let (sources, items) ←
    Decoder.nextItem broken (.ok []) (Decoder.list Decoder.text depth) items
  let (rootClass, items) ←
    Decoder.nextItem broken (.ok none) (Decoder.optional Decoder.text depth) items
  let (wordBreaking, items) ←
    Decoder.nextItem broken (.ok none) (Decoder.optional WordBreaking.decoder depth) items
  Decoder.endItems broken items
  return { format, sources, rootClass, wordBreaking }

/-- Reads a description. -/
def decoder : Decoder ModelSource := Decoder.tuple recordName ofMembers ofItems

/-- The description as a record. -/
def toJson (m : ModelSource) : Value :=
  .object ([("format", .string m.format), ("sources", Value.strings m.sources)] ++
    optionalMember "rootClass" Value.string m.rootClass ++
    optionalMember "wordBreaking" WordBreaking.toJson m.wordBreaking)

/-- The description in a file. -/
def load {σ : Type} [FileSystem σ] (s : σ) (p : Path) : Result ModelSource := do
  let text ← FileSystem.readText s p
  Result.within (.parseModelSource p) (Result.ofCause .json (Json.decodeText decoder text))

end ModelSource

/-- A source with its text. -/
structure SourceFile where
  /-- Where it was read. -/
  path : Path
  /-- What it says. -/
  text : String
  deriving DecidableEq, Repr

/-- One listed source. -/
def readSource {σ : Type} [FileSystem σ] (s : σ) (l : Layout) (reference : String) :
    Result SourceFile := do
  let path := l.sourceFile reference
  let text ← Result.within (.readModelSource reference) (FileSystem.readText s path)
  return ⟨path, text⟩

/-- The listed sources, in order. -/
def readSources {σ : Type} [FileSystem σ] (s : σ) (l : Layout) (references : List String) :
    Result (List SourceFile) :=
  references.mapM (readSource s l)

end LexicalModel
