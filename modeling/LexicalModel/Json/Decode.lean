import LexicalModel.Json.Document
import LexicalModel.Json.Value
import LexicalModel.Text.Quoted
import LexicalModel.Text.Utf8

/-!
# Reading records from documents

A decoder reads one kind of value from a node.  It goes through the document from left to right and
reports the first thing that is wrong, whether the text breaks there or the value has the wrong
shape.  A value that is used may not be nested too deeply; one that is passed over may.

* `ReadError` : what is wrong with a document
* `Decoder` : how a value is read from a node
* `Document.decode`, `decodeText`, `decodeBytes` : reading a whole document
-/

namespace LexicalModel.Json

/-! ### What can be wrong -/

/-- The kind of value found where another was expected. -/
inductive Found where
  /-- The word `null`. -/
  | null
  /-- A truth value. -/
  | bool (b : Bool)
  /-- A number. -/
  | number (n : Number)
  /-- A string. -/
  | string (s : String)
  /-- An array. -/
  | sequence
  /-- An object. -/
  | map
  deriving DecidableEq, Repr

/-- The kind of value in words. -/
def Found.describe : Found → String
  | .null => "null"
  | .bool b => s!"boolean `{b}`"
  | .number (.int n) => "integer `" ++ String.ofList (intChars n) ++ "`"
  | .number (.double x) => "floating point `" ++ String.ofList x.chars ++ "`"
  | .string s => "string " ++ Text.quoted s
  | .sequence => "sequence"
  | .map => "map"

/-- A document of the wrong shape. -/
inductive DataError where
  /-- A field that has to be there is not. -/
  | missingField (name : String)
  /-- A field is there twice. -/
  | duplicateField (name : String)
  /-- A field is there that the record does not have. -/
  | unknownField (name : String) (expected : List String)
  /-- A value of another kind than expected. -/
  | invalidType (found : Found) (expected : String)
  /-- An integer outside of the expected range. -/
  | invalidValue (n : Int) (expected : String)
  /-- An array with too few items. -/
  | invalidLength (n : Nat) (expected : String)
  deriving DecidableEq, Repr

/-- The error in words. -/
def DataError.message : DataError → String
  | missingField name => s!"missing field `{name}`"
  | duplicateField name => s!"duplicate field `{name}`"
  | unknownField name expected =>
    s!"unknown field `{name}`, expected one of " ++
      ", ".intercalate (expected.map fun e => s!"`{e}`")
  | invalidType found expected => s!"invalid type: {found.describe}, expected {expected}"
  | invalidValue n expected =>
    "invalid value: " ++ (Found.number (.int n)).describe ++ s!", expected {expected}"
  | invalidLength n expected => s!"invalid length {n}, expected {expected}"

/-- The first thing that is wrong with a document. -/
inductive ReadError where
  /-- The text breaks. -/
  | fault (f : Fault)
  /-- A value has the wrong shape. -/
  | data (e : DataError)
  deriving DecidableEq, Repr

/-- The error in words. -/
def ReadError.message : ReadError → String
  | fault .eof => "json eof"
  | fault .malformed => "json syntax"
  | data e => "json data: " ++ e.message

/-! ### Nodes -/

/-- The kind of value that a node holds. -/
def Node.found : Node → Except Fault Found
  | .null => .ok .null
  | .bool b => .ok (.bool b)
  | .number (some n) => .ok (.number n)
  | .number none => .error .malformed
  | .string (some s) => .ok (.string s)
  | .string none => .error .malformed
  | .array .. => .ok .sequence
  | .object .. => .ok .map
  | .broken b => .error b.used

/-- The error of a node that does not hold what is expected. -/
def Node.mismatch (expected : String) (n : Node) : ReadError :=
  match n.found with
  | .ok found => .data (.invalidType found expected)
  | .error f => .fault f

/-- A break is an error for a reader who uses the value. -/
def endUsed : Option Break → Except ReadError Unit
  | none => .ok ()
  | some b => .error (.fault b.used)

mutual

/-- Passes over a value that nobody asks for. -/
def Node.pass : Node → Except ReadError Unit
  | .array items b => do
    passItems items
    passBreak b
  | .object members b => do
    passMembers members
    passBreak b
  | .broken b => .error (.fault b.passed)
  | .null | .bool _ | .number _ | .string _ => .ok ()

/-- Passes over items. -/
def passItems : List Node → Except ReadError Unit
  | [] => .ok ()
  | n :: ns => do
    n.pass
    passItems ns

/-- Passes over members. -/
def passMembers : List (Option String × Node) → Except ReadError Unit
  | [] => .ok ()
  | (_, n) :: ns => do
    n.pass
    passMembers ns

/-- A break is an error for a reader who passes over the value. -/
def passBreak : Option Break → Except ReadError Unit
  | none => .ok ()
  | some b => .error (.fault b.passed)

end

/-! ### Decoders -/

/-- Reads a value from a node, given how many more levels may be opened, less one. -/
abbrev Decoder (α : Type) := Nat → Node → Except ReadError α

/-- The nesting that a document may have, plus one. -/
def maxDepth : Nat := 128

/-- Opens an array or an object. -/
def enter (depth : Nat) : Except ReadError Nat :=
  if depth ≤ 1 then .error (.fault .malformed) else .ok (depth - 1)

namespace Decoder

/-- A string. -/
def text : Decoder String
  | _, .string (some s) => .ok s
  | _, n => .error (n.mismatch "a string")

/-- An unsigned integer up to a largest one; `kind` names the range. -/
def unsigned (kind : String) (largest : Nat) : Decoder Nat
  | _, .number (some (.int k)) =>
    if 0 ≤ k ∧ k ≤ largest then .ok k.toNat else .error (.data (.invalidValue k kind))
  | _, n => .error (n.mismatch kind)

/-- A value that may be `null`. -/
def optional {α : Type} (decode : Decoder α) : Decoder (Option α)
  | _, .null => .ok none
  | depth, n => (decode depth n).map some

/-- Reads items one after the other. -/
def items {α : Type} (decode : Node → Except ReadError α) : List Node → Except ReadError (List α)
  | [] => .ok []
  | n :: ns => do
    let a ← decode n
    let rest ← items decode ns
    return a :: rest

/-- An array of values of one kind. -/
def list {α : Type} (decode : Decoder α) : Decoder (List α)
  | depth, .array ns b => do
    let inner ← enter depth
    let as ← items (decode inner) ns
    endUsed b
    return as
  | _, n => .error (n.mismatch "a sequence")

mutual

/-- Any value; the members of objects are sorted by key, the last one of each key is kept. -/
def value : Nat → Node → Except ReadError Value
  | _, .null => .ok .null
  | _, .bool b => .ok (.bool b)
  | _, .number (some n) => .ok (.number n)
  | _, .number none => .error (.fault .malformed)
  | _, .string (some s) => .ok (.string s)
  | _, .string none => .error (.fault .malformed)
  | depth, .array ns b => do
    let inner ← enter depth
    let vs ← valueItems inner ns
    endUsed b
    return .array vs
  | depth, .object ms b => do
    let inner ← enter depth
    let vs ← valueMembers inner ms
    endUsed b
    return .object (sortMembers vs)
  | _, .broken b => .error (.fault b.used)

/-- The values of items. -/
def valueItems : Nat → List Node → Except ReadError (List Value)
  | _, [] => .ok []
  | depth, n :: ns => do
    let v ← value depth n
    let vs ← valueItems depth ns
    return v :: vs

/-- The keys and values of members. -/
def valueMembers : Nat → List (Option String × Node) → Except ReadError (List (String × Value))
  | _, [] => .ok []
  | _, (none, _) :: _ => .error (.fault .malformed)
  | depth, (some k, n) :: ms => do
    let v ← value depth n
    let vs ← valueMembers depth ms
    return (k, v) :: vs

end

/-! ### Records -/

/-- Hands the members of an object to `step` one after the other. -/
def members {δ : Type} (step : δ → String → Node → Except ReadError δ) :
    δ → List (Option String × Node) → Except ReadError δ
  | d, [] => .ok d
  | _, (none, _) :: _ => .error (.fault .malformed)
  | d, (some k, n) :: ms => do
    let d ← step d k n
    members step d ms

/-- Reads the field `name`, which may come only once; `old` is what was read before. -/
def once {α : Type} (name : String) (old : Option α) (decode : Except ReadError α) :
    Except ReadError (Option α) :=
  match old with
  | some _ => .error (.data (.duplicateField name))
  | none => decode.map some

/-- A field that has to be there. -/
def require {α : Type} (name : String) : Option α → Except ReadError α
  | some a => .ok a
  | none => .error (.data (.missingField name))

/-- The next item of an array that holds the fields of a record in order; `missing` is for the case
that there is none. -/
def nextItem {α : Type} (b : Option Break) (missing : Except ReadError α)
    (decode : Node → Except ReadError α) (ns : List Node) : Except ReadError (α × List Node) :=
  match ns with
  | n :: rest => do
    let a ← decode n
    return (a, rest)
  | [] => do
    endUsed b
    let a ← missing
    return (a, [])

/-- The end of an array that holds the fields of a record. -/
def endItems (b : Option Break) : List Node → Except ReadError Unit
  | [] => endUsed b
  | _ :: _ => .error (.fault .malformed)

/-- An array of fields is too short: it ends before the item of the given index. -/
def tooShort {α : Type} (index : Nat) (name : String) (fields : Nat) : Except ReadError α :=
  .error (.data (.invalidLength index
    (s!"struct {name} with {fields} element" ++ if fields = 1 then "" else "s")))

/-- A record that is written as an object only. -/
def record {α : Type} (name : String)
    (ofMembers : Nat → List (Option String × Node) → Option Break → Except ReadError α) : Decoder α
  | depth, .object ms b => do
    let inner ← enter depth
    ofMembers inner ms b
  | _, n => .error (n.mismatch s!"struct {name}")

/-- A record that may also be written as an array of its fields. -/
def tuple {α : Type} (name : String)
    (ofMembers : Nat → List (Option String × Node) → Option Break → Except ReadError α)
    (ofItems : Nat → List Node → Option Break → Except ReadError α) : Decoder α
  | depth, .array ns b => do
    let inner ← enter depth
    ofItems inner ns b
  | depth, n => record name ofMembers depth n

end Decoder

/-! ### Whole documents -/

/-- Reads a whole document. -/
def Document.decode {α : Type} (decoder : Decoder α) (doc : Document) : Except ReadError α := do
  let a ← decoder maxDepth doc.root
  match doc.trailing with
  | none => return a
  | some f => throw (.fault f)

/-- Reads the document that a text holds. -/
def decodeText {α : Type} (decoder : Decoder α) (s : String) : Except ReadError α :=
  (Document.parse s).decode decoder

/-- Reads the document that bytes hold, as far as they are a text. -/
def decodeBytes {α : Type} (decoder : Decoder α) (bytes : ByteArray) : Except ReadError α :=
  match Text.Utf8.decode bytes with
  | .ok s => decodeText decoder s
  | .error f =>
    let front := Text.Utf8.decodeLossy (bytes.extract 0 f.index)
    let atEnd := Ending.ofBytes (bytes.extract f.index bytes.size).toList
    (Document.read atEnd front.toList).decode decoder

end LexicalModel.Json
