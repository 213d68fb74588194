import LexicalModel.Command.Edit.Engine
import LexicalModel.Command.Options

/-!
# The command `sed`

Edits a stream of lines as a script says.
-/

namespace LexicalModel.Command.Edit

/-- The options. -/
def table : OptionTable where
  short := "nrzuE".toList.map (·, .nothing) ++ [('e', .value), ('f', .value), ('l', .value)]
  long := [("regexp-extended", .nothing, 'r'), ("expression", .value, 'e'), ("file", .value, 'f'),
    ("line-length", .value, 'l'), ("null-data", .nothing, 'z'),
    ("zero-terminated", .nothing, 'z'), ("quiet", .nothing, 'n'), ("silent", .nothing, 'n'),
    ("unbuffered", .nothing, 'u')]

/-- What the options ask for. -/
structure Request where
  /-- How the script is read. -/
  reader : Reader := {}
  /-- How the run is to go. -/
  setting : Setting := {}
  /-- The pieces of the script. -/
  pieces : List Piece := []

/-- Adds an option; an error where a file cannot be read. -/
def Request.add (p : Process) (r : Request) (o : GivenOption) :
    Action (Except (Raw × Nat) Request) := do
  let value := o.value.getD []
  match o.letter with
  | 'n' => return .ok { r with setting := { r.setting with quiet := true } }
  | 'r' | 'E' => return .ok { r with reader := { r.reader with extended := true } }
  | 'z' =>
    return .ok { r with
      reader := { r.reader with zeroEnds := true }
      setting := { r.setting with zeroEnds := true } }
  | 'l' =>
    if value ≠ [] && value.all isDigit then
      return .ok { r with setting := { r.setting with width := numeral 10 value } }
    else return .error ("invalid line length: ".toList ++ value, 1)
  | 'e' => return .ok { r with pieces := r.pieces ++ [⟨none, value⟩] }
  | 'f' =>
    let bytes ← if value = ['-'] then p.takeAll 0 else p.readFile value
    match bytes with
    | .error e =>
      return .error ("couldn't open file ".toList ++ value ++ ": ".toList ++ e.words.toList, 4)
    | .ok bytes =>
      let text := Raw.ofBytes bytes
      let text := if text.getLast? = some '\n' then text.dropLast else text
      return .ok { r with pieces := r.pieces ++ [⟨some value, text⟩] }
  | _ => return .ok r

/-- The request of options. -/
def Request.ofOptions (p : Process) : List GivenOption → Request →
    Action (Except (Raw × Nat) Request)
  | [], r => return .ok r
  | o :: os, r => do
    match ← r.add p o with
    | .error e => return .error e
    | .ok r => ofOptions p os r

/-- How the command is used. -/
def usage (p : Process) : Raw :=
  "Usage: ".toList ++ p.name ++
    " [OPTION]... \x7bscript-only-if-no-other-script\x7d [input-file]...\n".toList

/-- The command. -/
def program : Program := fun p => do
  let given := table.read p.args
  match given.error with
  | some e =>
    p.complain e.words
    p.err (usage p)
    return .code 1
  | none =>
    match ← Request.ofOptions p given.options {} with
    | .error (words, status) =>
      p.complain words
      return .code status
    | .ok r =>
      let (pieces, files) : List Piece × List Raw :=
        if r.pieces ≠ [] then (r.pieces, given.operands)
        else
          match given.operands with
          | [] => ([], [])
          | script :: files => ([⟨none, script⟩], files)
      if pieces.isEmpty then
        p.err (usage p)
        return .code 1
      match r.reader.read pieces with
      | .error trouble =>
        let (words, status) := trouble.words pieces
        p.complain words
        return .code status
      | .ok script =>
        let setting := { r.setting with quiet := r.setting.quiet || script.quiet }
        Editor.run p setting script (if files = [] then [['-']] else files)

end LexicalModel.Command.Edit
