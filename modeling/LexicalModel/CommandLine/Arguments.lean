import LexicalModel.Path.Basic

/-!
# Arguments of the command line

The first argument names a command, the others are its options.  They are read from left to right,
and the first problem ends the reading.  An option that takes a value is checked once the next
option, or the end, shows that no value is to come; a problem with that next argument itself comes
first.

* `Command` : what can be asked for
* `UsageError` : why arguments are refused, or that help is wanted
* `Command.parse` : reads arguments
-/

namespace LexicalModel.CommandLine

/-- What can be asked for. -/
inductive Command where
  /-- Compile a model: its build directory, a model source, a configuration and a transpiler. -/
  | build (dir source config : Option Path) (transpiler : Option String) (verbose : Bool)
  /-- Identify a model: its build directory, and whether to write a record. -/
  | identify (dir : Option Path) (json verbose : Bool)

/-- Why arguments are refused, or that help is wanted. -/
inductive UsageError where
  /-- An argument that nothing takes. -/
  | unknownArgument
  /-- No such command. -/
  | invalidCommand
  /-- A value that is missing or must not be empty. -/
  | invalidValue
  /-- An option that is given twice. -/
  | repeatedOption
  /-- A value for an option that takes none. -/
  | unwantedValue
  /-- Help is asked for. -/
  | help
  /-- The version is asked for. -/
  | version
  /-- Nothing is asked for. -/
  | missingCommand
  deriving DecidableEq, Repr

/-- What an option takes. -/
inductive OptionKind where
  /-- Nothing. -/
  | flag
  /-- A text. -/
  | text
  /-- A path, which is not empty. -/
  | path
  deriving DecidableEq

/-- A shape of an argument. -/
inductive Shape where
  /-- Ends the options. -/
  | stop
  /-- An option by its name, and the value written to it. -/
  | option (name : String) (value : Option String)
  /-- Options of one letter. -/
  | letters (first : Char)
  /-- Anything else. -/
  | plain

/-- The shape of an argument. -/
def shapeOf (arg : String) : Shape :=
  match arg.toList with
  | ['-', '-'] => .stop
  | '-' :: '-' :: rest =>
    let name := rest.takeWhile (· ≠ '=')
    .option (String.ofList name)
      (match rest.drop name.length with
      | [] => none
      | _ :: value => some (String.ofList value))
  | '-' :: c :: _ => .letters c
  | _ => .plain

/-- Options read so far. -/
structure Reading where
  /-- The options that are done, with the values of those that take one. -/
  done : List (String × String) := []
  /-- The option whose value is not checked yet, and the value where it is there. -/
  pending : Option (String × OptionKind × Option String) := none

namespace Reading

/-- Adds an option with its value. -/
def add (r : Reading) (name : String) (kind : OptionKind) (value : String) :
    Except UsageError Reading :=
  if (r.done.lookup name).isSome then .error .repeatedOption
  else if kind = .path && value = "" then .error .invalidValue
  else .ok { r with done := (name, value) :: r.done }

/-- Checks the option that waits. -/
def settle (r : Reading) : Except UsageError Reading :=
  match r.pending with
  | none => .ok r
  | some (_, _, none) => .error .invalidValue
  | some (name, kind, some value) => { r with pending := none }.add name kind value

/-- The value of an option. -/
def value? (r : Reading) (name : String) : Option String := r.done.lookup name

/-- The value of an option as a path. -/
def path? (r : Reading) (name : String) : Option Path := (r.value? name).map Path.ofText

/-- Whether a flag is set. -/
def has (r : Reading) (name : String) : Bool := (r.value? name).isSome

end Reading

/-- Reads the options of a command. -/
def readOptions (kinds : List (String × OptionKind)) (r : Reading) :
    List String → Except UsageError Reading
  | [] => r.settle
  | arg :: args =>
    match shapeOf arg with
    | .stop => if args = [] then r.settle else .error .unknownArgument
    | .letters c => if c = 'h' then r.settle.bind fun _ => .error .help else .error .unknownArgument
    | .option "help" none => r.settle.bind fun _ => .error .help
    | .option "help" (some _) => .error .unwantedValue
    | .option name value =>
      match kinds.lookup name, value with
      | none, _ => .error .unknownArgument
      | some .flag, some _ => .error .unwantedValue
      | some .flag, none => do
        let r ← r.settle
        let r ← r.add name .flag ""
        readOptions kinds r args
      | some kind, some value => do
        let r ← r.settle
        let r ← r.add name kind value
        readOptions kinds r args
      | some kind, none => do
        let r ← r.settle
        readOptions kinds { r with pending := some (name, kind, none) } args
    | .plain =>
      match r.pending with
      | some (name, kind, none) =>
        readOptions kinds { r with pending := some (name, kind, some arg) } args
      | _ => .error .unknownArgument

/-- The options of the command `build`. -/
def buildOptions : List (String × OptionKind) :=
  [("dir", .path), ("model-source", .path), ("config", .path), ("transpiler", .text),
    ("verbose", .flag)]

/-- The options of the command `identify`. -/
def identifyOptions : List (String × OptionKind) :=
  [("dir", .path), ("json", .flag), ("verbose", .flag)]

/-- The names of all commands. -/
def commandNames : List String := ["build", "identify", "help"]

/-- What asking for help on commands gives. -/
def helpOn : List String → UsageError
  | [] => .help
  | [name] => if commandNames.contains name then .help else .invalidCommand
  | _ => .invalidCommand

/-- Reads arguments. -/
def Command.parse : List String → Except UsageError Command
  | [] => .error .missingCommand
  | "build" :: args => do
    let r ← readOptions buildOptions {} args
    return .build (r.path? "dir") (r.path? "model-source") (r.path? "config")
      (r.value? "transpiler") (r.has "verbose")
  | "identify" :: args => do
    let r ← readOptions identifyOptions {} args
    return .identify (r.path? "dir") (r.has "json") (r.has "verbose")
  | "help" :: args => .error (helpOn args)
  | arg :: args =>
    match shapeOf arg with
    | .stop =>
      match args with
      | [] => .error .missingCommand
      | name :: _ =>
        .error (if commandNames.contains name then .unknownArgument else .invalidCommand)
    | .letters c =>
      .error (if c = 'h' then .help else if c = 'V' then .version else .unknownArgument)
    | .option "help" none => .error .help
    | .option "version" none => .error .version
    | .option name _ =>
      .error (if name = "help" || name = "version" then .unwantedValue else .unknownArgument)
    | .plain => .error .invalidCommand

end LexicalModel.CommandLine
