import LexicalModel.Command.Shell.Reader
import LexicalModel.Command.Machine

/-!
# Sessions of the shell

What a shell knows while it runs a script: its variables, functions, parameters, descriptors and so
on.  A command may leave the usual order of things: it may end the shell, a function or a loop.

* `Session` : what a shell knows
* `Leap` : why the usual order is left
* `Sh` : what a shell does
-/

namespace LexicalModel.Command.Shell

/-- A variable. -/
structure Variable where
  /-- Its value. -/
  value : Option Raw := none
  /-- It is handed on to programs. -/
  exported : Bool := false
  /-- It cannot be changed. -/
  fixed : Bool := false

/-- What a shell knows. -/
structure Session where
  /-- The name of the shell, or of its script. -/
  name : Raw
  /-- The command that complains. -/
  speaker : Option Raw := none
  /-- The line of the script. -/
  line : Nat := 1
  /-- The variables. -/
  bindings : List (Raw × Variable) := []
  /-- The functions. -/
  functions : List (Raw × Script) := []
  /-- The parameters. -/
  parameters : List Raw := []
  /-- The status of the last command. -/
  status : Nat := 0
  /-- The status of the last command whose output was taken, in this command. -/
  taken : Option Nat := none
  /-- The letters of the options that are set. -/
  options : List Char := []
  /-- The working directory. -/
  cwd : Place
  /-- The descriptors. -/
  descriptors : Descriptors
  /-- What is done on signals and at the end. -/
  traps : List (Nat × Raw) := []
  /-- Signals that arrived and wait for their trap. -/
  arrived : List Nat := []
  /-- The here-documents. -/
  documents : List (Nat × Word) := []
  /-- The number of the next here-document. -/
  nextDocument : Nat := 0
  /-- How many loops are running. -/
  loops : Nat := 0
  /-- How many functions and files are running. -/
  calls : Nat := 0
  /-- What the variables were that functions have for themselves. -/
  locals : List (List (Raw × Option Variable)) := []
  /-- In a shell that another one started to run a part of its script: what the outermost shell does
  on signals. -/
  outer : Option (List (Nat × Raw)) := none

/-- Why the usual order is left. -/
inductive Leap where
  /-- The shell ends. -/
  | exit (status : Nat)
  /-- The shell ends because of a mistake. -/
  | mistake
  /-- A function ends. -/
  | return (status : Nat)
  /-- So many loops end. -/
  | break (loops : Nat)
  /-- The next turn of a loop begins. -/
  | continue (loops : Nat)
  /-- A signal ends the shell. -/
  | killed (signal : Nat)
  /-- Another program has taken the place of the shell. -/
  | replaced (status : ExitStatus)

/-- What a shell does. -/
abbrev Sh := ExceptT Leap (StateT Session Action)

namespace Sh

/-- What is done on the machine. -/
def act {α : Type} (a : Action α) : Sh α := ExceptT.mk do
  let x ← (a : StateT Session Action α)
  return .ok x

/-- The machine. -/
def machine : Sh Machine := act get

/-- A process like the shell, with a name and arguments. -/
def process (name : Raw) (args : List Raw) : Sh Process := do
  let s ← get
  let environment := s.bindings.filterMap fun (name, v) =>
    if v.exported then v.value.map fun value => (String.ofList name, value) else none
  return { name, args, environment, cwd := s.cwd, descriptors := s.descriptors }

/-- Writes to a descriptor. -/
def writeTo (descriptor : Nat) (r : Raw) : Sh (Except OsError Unit) := do
  act ((← process [] []).put descriptor r.toBytes)

/-- Complains. -/
def warn (words : Raw) : Sh Unit := do
  let s ← get
  let speaker := match s.speaker with
    | some name => name ++ ": ".toList
    | none => []
  let _ ← writeTo 2
    (s.name ++ ": ".toList ++ Raw.ofNat s.line ++ ": ".toList ++ speaker ++ words ++ ['\n'])

/-- Complains, and gives up what is being done. -/
def fault {α : Type} (words : Raw) : Sh α := do
  warn words
  throw .mistake

/-- Does something, and then something else, however the first thing ends. -/
def finally_ {α : Type} (body : Sh α) (after : Sh Unit) : Sh α := do
  try
    let x ← body
    after
    return x
  catch leap =>
    after
    throw leap

/-! ### Variables -/

/-- A variable. -/
def held? (name : Raw) : Sh (Option Variable) := do return (← get).bindings.lookup name

/-- The value of a variable. -/
def value? (name : Raw) : Sh (Option Raw) := do return (← held? name).bind (·.value)

/-- Replaces or adds what belongs to a name. -/
def update {α : Type} (name : Raw) (x : α) : List (Raw × α) → List (Raw × α)
  | [] => [(name, x)]
  | (n, y) :: rest => if n = name then (name, x) :: rest else (n, y) :: update name x rest

/-- Puts a variable in its place. -/
def putVariable (name : Raw) (v : Variable) : Sh Unit :=
  modify fun s => { s with bindings := update name v s.bindings }

/-- Assigns to a variable. -/
def assign (name value : Raw) : Sh Unit := do
  let v := (← held? name).getD {}
  if v.fixed then fault (name ++ ": is read only".toList)
  putVariable name { v with value := some value }

/-- The characters that divide fields. -/
def dividers : Sh Raw := do
  match ← held? "IFS".toList with
  | some { value := some r, .. } => return r
  | _ => return " \t\n".toList

/-- Whether an option is set. -/
def isSet (c : Char) : Sh Bool := do return (← get).options.contains c

end Sh

end LexicalModel.Command.Shell
