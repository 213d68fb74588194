import LexicalModel.Command.Raw

/-!
# Options of commands

The arguments of a command are options and operands.  Short options are letters after one dash, and
several of them may share it; long options are words after two dashes, and may be cut short as long
as they stay distinct.  After two dashes alone there are only operands.

* `OptionTable` : the options of a command
* `OptionTable.read` : the options and operands in some arguments
-/

namespace LexicalModel.Command

/-- Whether an option takes a value. -/
inductive Takes where
  /-- It takes none. -/
  | nothing
  /-- It has to have one. -/
  | value
  deriving DecidableEq, Repr

/-- The options of a command.  A long option stands for a letter. -/
structure OptionTable where
  /-- The short options. -/
  short : List (Char × Takes)
  /-- The long options. -/
  long : List (String × Takes × Char)
  /-- Options end where operands begin. -/
  optionsFirst : Bool := false

/-- An option that was given. -/
structure GivenOption where
  /-- Its letter. -/
  letter : Char
  /-- Its value. -/
  value : Option Raw
  /-- How many arguments stood before it. -/
  position : Nat

/-- Why options are refused. -/
inductive OptionError where
  /-- There is no such long option. -/
  | unknownWord (arg : Raw)
  /-- A long option is cut too short. -/
  | ambiguous (arg : Raw) (names : List String)
  /-- A long option takes no value. -/
  | unwanted (name : String)
  /-- A long option has no value. -/
  | wordWithoutValue (name : String)
  /-- There is no such short option. -/
  | unknownLetter (letter : Char)
  /-- A short option has no value. -/
  | letterWithoutValue (letter : Char)

/-- The refusal in words. -/
def OptionError.words : OptionError → Raw
  | unknownWord arg => "unrecognized option '".toList ++ arg ++ ['\x27']
  | ambiguous arg names =>
    "option '".toList ++ arg ++ "' is ambiguous; possibilities:".toList ++
      names.flatMap fun name => s!" '--{name}'".toList
  | unwanted name => s!"option '--{name}' doesn't allow an argument".toList
  | wordWithoutValue name => s!"option '--{name}' requires an argument".toList
  | unknownLetter letter => "invalid option -- '".toList ++ [letter, '\x27']
  | letterWithoutValue letter => "option requires an argument -- '".toList ++ [letter, '\x27']

/-- What some arguments hold. -/
structure Arguments where
  /-- The options, in order. -/
  options : List GivenOption := []
  /-- The operands. -/
  operands : List Raw := []
  /-- What ended the reading too early. -/
  error : Option OptionError := none

/-- Puts an option in front. -/
def Arguments.withOption (a : Arguments) (o : GivenOption) : Arguments :=
  { a with options := o :: a.options }

/-- Puts an operand in front. -/
def Arguments.withOperand (a : Arguments) (operand : Raw) : Arguments :=
  { a with operands := operand :: a.operands }

namespace OptionTable

/-- The long option that a word means. -/
def lookUp (t : OptionTable) (word : Raw) : Except OptionError (String × Takes × Char) :=
  match t.long.find? fun o => o.1.toList = word with
  | some o => .ok o
  | none =>
    match t.long.filter fun o => word.isPrefixOf o.1.toList with
    | [] => .error (.unknownWord ('-' :: '-' :: word))
    | o :: os =>
      if os.all fun other => other.2 = o.2 then .ok o
      else .error (.ambiguous ('-' :: '-' :: word) ((o :: os).map (·.1)))

/-- A letter of a group of short options: the option, and whether the rest of the group or the next
argument belongs to it. -/
inductive Letter where
  /-- An option without value, or one whose value is the rest of the group. -/
  | given (o : GivenOption) (rest : Raw)
  /-- An option whose value is the next argument. -/
  | open (letter : Char)
  /-- No option. -/
  | unknown (letter : Char)

/-- Reads one letter of a group. -/
def readLetter (t : OptionTable) (position : Nat) (c : Char) (rest : Raw) : Letter :=
  match t.short.lookup c with
  | none => .unknown c
  | some .nothing => .given ⟨c, none, position⟩ rest
  | some .value => if rest = [] then .open c else .given ⟨c, some rest, position⟩ []

/-- Reads a group of short options, up to one whose value is the next argument. -/
def readLetters (t : OptionTable) (position : Nat) :
    Nat → Raw → Except OptionError (List GivenOption × Option Char)
  | 0, _ => .ok ([], none)
  | _ + 1, [] => .ok ([], none)
  | fuel + 1, c :: rest =>
    match t.readLetter position c rest with
    | .unknown c => .error (.unknownLetter c)
    | .open c => .ok ([], some c)
    | .given o rest => (t.readLetters position fuel rest).map fun (os, l) => (o :: os, l)

/-- Reads arguments. -/
def readFrom (t : OptionTable) : Nat → List Raw → Arguments
  | _, [] => {}
  | position, arg :: args =>
    match arg with
    | '-' :: '-' :: [] => { operands := args }
    | '-' :: '-' :: word =>
      let name := word.takeWhile (· ≠ '=')
      let value := if word.contains '=' then some (word.drop (name.length + 1)) else none
      match t.lookUp name with
      | .error (.unknownWord _) => { error := some (.unknownWord arg) }
      | .error e => { error := some e }
      | .ok (name, .nothing, letter) =>
        match value with
        | some _ => { error := some (.unwanted name) }
        | none => (t.readFrom (position + 1) args).withOption ⟨letter, none, position⟩
      | .ok (name, .value, letter) =>
        match value with
        | some v => (t.readFrom (position + 1) args).withOption ⟨letter, some v, position⟩
        | none =>
          match args with
          | [] => { error := some (.wordWithoutValue name) }
          | v :: args => (t.readFrom (position + 2) args).withOption ⟨letter, some v, position⟩
    | '-' :: c :: cs =>
      match t.readLetters position (cs.length + 2) (c :: cs) with
      | .error e => { error := some e }
      | .ok (given, none) =>
        let a := t.readFrom (position + 1) args
        { a with options := given ++ a.options }
      | .ok (given, some letter) =>
        match args with
        | [] => { error := some (.letterWithoutValue letter) }
        | v :: args =>
          let a := (t.readFrom (position + 2) args).withOption ⟨letter, some v, position⟩
          { a with options := given ++ a.options }
    | operand =>
      if t.optionsFirst then { operands := operand :: args }
      else (t.readFrom (position + 1) args).withOperand operand

/-- Reads the arguments of a command. -/
def read (t : OptionTable) (args : List Raw) : Arguments := t.readFrom 0 args

end OptionTable

end LexicalModel.Command
