import LexicalModel.Command.Shell.Builtins

/-!
# Finding commands

A command is a function, a built-in command or a program; programs are found through the directories
that the variable `PATH` names, or by a name with a slash.

* `Kit` : the programs that there are
* `locate` : the program of a name
* `Builtin.describe` : what a name stands for
-/

namespace LexicalModel.Command.Shell

/-- The programs that there are, by the names that the disk knows them by. -/
abbrev Kit := String → Option Program

/-- Why there is no program of a name. -/
inductive Missing where
  /-- There is nothing of that name. -/
  | nothing
  /-- What there is cannot be run. -/
  | refused

/-- The status of a shell that cannot start a program. -/
def Missing.status : Missing → Nat
  | .nothing => 127
  | .refused => 126

/-- The words about a program that cannot be started. -/
def Missing.words : Missing → Raw
  | .nothing => "not found".toList
  | .refused => "Permission denied".toList

/-- The program that stands at a path. -/
def programAt (kit : Kit) (m : Machine) (cwd : Place) (path : Raw) : Except Missing Program :=
  match m.find cwd path with
  | .ok (_, .special (.program name)) =>
    match kit name with
    | some p => .ok p
    | none => .error .nothing
  | .ok _ => .error .refused
  | .error .notFound | .error .notADirectory => .error .nothing
  | .error _ => .error .refused

/-- The parts of a text between colons. -/
def parts (r : Raw) : List Raw :=
  r.foldr (fun c rest =>
    if c = ':' then [] :: rest
    else match rest with
      | part :: more => (c :: part) :: more
      | [] => [[c]]) [[]]

/-- The program of a name in the first of some directories that has it, and its path. -/
def search (kit : Kit) (m : Machine) (cwd : Place) (name : Raw) (sofar : Missing) :
    List Raw → Except Missing (Raw × Program)
  | [] => .error sofar
  | dir :: dirs =>
    let path := if dir = [] then name else dir ++ '/' :: name
    match programAt kit m cwd path with
    | .ok p => .ok (path, p)
    | .error .nothing => search kit m cwd name sofar dirs
    | .error .refused => search kit m cwd name .refused dirs

/-- The program of a name, and its path. -/
def locate (kit : Kit) (name : Raw) : Sh (Except Missing (Raw × Program)) := do
  let s ← get
  let m ← Sh.machine
  if name.contains '/' then
    return (programAt kit m s.cwd name).map fun p => (name, p)
  else
    return search kit m s.cwd name .nothing (parts ((← Sh.value? "PATH".toList).getD []))

/-- Says in short what a name stands for. -/
def Builtin.describe (kit : Kit) (name : Raw) : Sh Nat := do
  let isKnown := keywords.contains (String.ofList name) ||
    ((← get).functions.lookup name).isSome || isSpecialBuiltin name || isBuiltin name
  if isKnown then Builtin.say (name ++ ['\n'])
  else
    match ← locate kit name with
    | .ok (path, _) => Builtin.say (path ++ ['\n'])
    | .error _ => return 127

end LexicalModel.Command.Shell
