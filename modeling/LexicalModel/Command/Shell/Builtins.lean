import LexicalModel.Command.Printf.Format
import LexicalModel.Command.Shell.Glob
import LexicalModel.Command.Shell.Session
import LexicalModel.Command.Shell.Test

/-!
# Built-in commands

The commands that a shell carries out itself and that run no other commands.

* `Builtin` : what such a command does with its arguments
* `builtin?` : the built-in commands by name
-/

namespace LexicalModel.Command.Shell

/-- What a built-in command does with its arguments, and its status. -/
abbrev Builtin := List Raw → Sh Nat

namespace Builtin

/-- Nothing, with a status. -/
def idle (status : Nat) : Builtin := fun _ => return status

/-! ### Writing -/

/-- What an escape stands for, and the rest. -/
def escape (cs : Raw) : Raw × Raw :=
  match cs with
  | [] => (['\\'], [])
  | c :: rest =>
    if isOctal c then
      let ds := (cs.take 3).takeWhile isOctal
      ([charOf (UInt8.ofNat (numeral 8 ds))], cs.drop ds.length)
    else
      match c with
      | '\\' => (['\\'], rest)
      | 'a' => (['\x07'], rest)
      | 'b' => (['\x08'], rest)
      | 'e' => (['\x1b'], rest)
      | 'f' => (['\x0c'], rest)
      | 'n' => (['\n'], rest)
      | 'r' => (['\r'], rest)
      | 't' => (['\t'], rest)
      | 'v' => (['\x0b'], rest)
      | _ => (['\\'], cs)

/-- What an escape in an argument stands for: it may end all output, and an octal number may have a
zero in front. -/
def argumentEscape (cs : Raw) : Except Printf.Halt (Raw × Raw) :=
  match cs with
  | 'c' :: _ => .error .wanted
  | '0' :: d :: rest => .ok (escape (if isOctal d then d :: rest else cs))
  | _ => .ok (escape cs)

/-- The manner of the shell's `printf`. -/
def manner : Printf.Manner where
  flags := "#-+ 0".toList
  skipped := []
  precision := .double
  bareTexts := false
  allows s := s.letter.any "bcsdiouxXeEfFgG".toList.contains
  refusal s := match s.letter with
    | none => "missing format character".toList
    | some _ => s.text ++ ": invalid directive".toList
  doubt arg started :=
    arg ++ (if started then ": not completely converted" else ": expected numeric value").toList
  outOfRange arg := arg ++ ": Numerical result out of range".toList
  amount _ _ n := .ok (n.bmod (Nat.pow 2 32))
  unprintable := throw (.refused "xvsnprintf failed".toList)
  leftOver _ := none
  lastQuoteCounts := true
  escape cs := .ok (escape cs)
  argumentEscape := argumentEscape

/-- Writes, and complains where that cannot be done. -/
def say (r : Raw) : Sh Nat := do
  if r = [] then return 0
  match ← Sh.writeTo 1 r with
  | .ok () => return 0
  | .error _ =>
    Sh.warn (((← get).speaker.getD []) ++ ": I/O error".toList)
    return 1

/-- Writes arguments, as far as they do not end all output. -/
def echoed (bare : Bool) : List Raw → Raw
  | [] => if bare then [] else ['\n']
  | arg :: rest =>
    match manner.unescape (arg.length + 1) arg with
    | (.error _, text) => text
    | (.ok _, text) =>
      match rest with
      | [] => text ++ if bare then [] else ['\n']
      | _ => text ++ ' ' :: echoed bare rest

/-- Writes its arguments. -/
def echo : Builtin := fun args =>
  match args with
  | ['-', 'n'] :: rest => say (echoed true rest)
  | args => say (echoed false args)

/-- Writes its arguments as a format says. -/
def printf : Builtin := fun args => do
  let args := match args with
    | ['-', '-'] :: rest => rest
    | args => args
  match args with
  | [] => Sh.fault "usage: printf format [arg ...]".toList
  | format :: args =>
    match format with
    | '-' :: c :: _ => Sh.fault ("Illegal option -".toList ++ [c])
    | _ =>
      let (r, done) := manner.print format args
      done.events.forM fun
        | .mistake words => Sh.warn words
        | .output _ => pure ()
      let text := done.events.flatMap fun
        | .output text => text
        | .mistake _ => []
      match r with
      | .error (.refused words) =>
        Sh.warn words
        let _ ← say text
        throw .mistake
      | _ =>
        let status ← say text
        return if status ≠ 0 then status else if done.failed then 1 else 0

/-- Looks at a condition. -/
def test (bracketed : Bool) : Builtin := fun args => do
  let args ← if !bracketed then pure args
    else if args.getLast? = some [']'] then pure args.dropLast
    else Sh.fault "missing ]".toList
  let s ← get
  match Test.run ⟨← Sh.machine, s.cwd⟩ args with
  | .ok holds => return if holds then 0 else 1
  | .error words => Sh.fault words

/-! ### Numbers and flow -/

/-- The number that an argument denotes; it must not be negative. -/
def count (r : Raw) : Sh Nat := do
  match Test.numberOf r with
  | .ok (.ofNat n) => return n
  | _ => Sh.fault ("Illegal number: ".toList ++ r)

/-- Ends the shell. -/
def exit : Builtin := fun args => do
  match args with
  | [] => throw (.exit (← get).status)
  | r :: _ => throw (.exit ((← count r) % 256))

/-- Ends a function. -/
def return_ : Builtin := fun args => do
  match args with
  | [] => throw (.return (← get).status)
  | r :: _ => throw (.return (← count r))

/-- Ends loops, or goes on with their next turn. -/
def leave (make : Nat → Leap) : Builtin := fun args => do
  let n ← match args with
    | [] => pure 1
    | r :: _ => count r
  if n = 0 then Sh.fault ("Illegal number: ".toList ++ args.headD [])
  let loops := (← get).loops
  if loops = 0 then return 0 else throw (make (min n loops))

/-- Drops parameters. -/
def shift : Builtin := fun args => do
  let n ← match args with
    | [] => pure 1
    | r :: _ => count r
  let s ← get
  if s.parameters.length < n then Sh.fault "can't shift that many".toList
  set { s with parameters := s.parameters.drop n }
  return 0

/-! ### Variables -/

/-- The name and the value that an argument assigns. -/
def assignmentOf (r : Raw) : Raw × Option Raw :=
  let name := r.takeWhile (· ≠ '=')
  (name, if r.contains '=' then some (r.drop (name.length + 1)) else none)

/-- Marks variables, and assigns to them where a value is given. -/
def mark (change : Variable → Variable) : Builtin := fun args => do
  let args := if args.head? = some ['-', '-'] then args.drop 1 else args
  for arg in args do
    let (name, value) := assignmentOf arg
    if !isName name then Sh.fault (name ++ ": bad variable name".toList)
    match value with
    | some r => Sh.assign name r
    | none => pure ()
    Sh.putVariable name (change ((← Sh.held? name).getD {}))
  return 0

/-- Hands variables on to programs. -/
def export_ : Builtin := mark fun v => { v with exported := true }

/-- Makes variables fixed. -/
def readonly : Builtin := mark fun v => { v with fixed := true }

/-- Forgets variables or functions. -/
def unset : Builtin := fun args => do
  let (functions, args) : Bool × List Raw := match args with
    | ['-', 'f'] :: rest => (true, rest)
    | ['-', 'v'] :: rest => (false, rest)
    | ['-', '-'] :: rest => (false, rest)
    | args => (false, args)
  for name in args do
    if functions then
      modify fun s => { s with functions := s.functions.filter (·.1 ≠ name) }
    else
      match ← Sh.held? name with
      | some v =>
        if v.fixed then Sh.fault (name ++ ": is read only".toList)
        modify fun s => { s with bindings := s.bindings.filter (·.1 ≠ name) }
      | none => pure ()
  return 0

/-- Gives the function variables of its own. -/
def local_ : Builtin := fun args => do
  for arg in args do
    let (name, value) := assignmentOf arg
    let s ← get
    match s.locals with
    | [] => Sh.fault "not in a function".toList
    | frame :: frames =>
      if (frame.lookup name).isNone && !frame.any (·.1 = name) then
        set { s with locals := ((name, s.bindings.lookup name) :: frame) :: frames }
      match value with
      | some r => Sh.assign name r
      | none => pure ()
  if (← get).locals.isEmpty then Sh.fault "not in a function".toList
  return 0

/-- The options by name. -/
def optionNames : List (String × Char) :=
  [("errexit", 'e'), ("noglob", 'f'), ("noexec", 'n'), ("stdin", 's'), ("xtrace", 'x'),
    ("nounset", 'u')]

/-- Sets or resets an option. -/
def setOption (on : Bool) (c : Char) : Sh Unit :=
  modify fun s =>
    let others := s.options.filter (· ≠ c)
    { s with options := if on then others ++ [c] else others }

/-- Sets or resets the options of a group of letters; gives the arguments after it, the first of
which may be the name of an option. -/
def readLetters (on : Bool) : Raw → List Raw → Sh (List Raw)
  | [], rest => return rest
  | c :: cs, rest => do
    if c = 'o' then
      let name := rest.headD []
      match optionNames.lookup (String.ofList name) with
      | some letter => setOption on letter
      | none =>
        let sign := if on then '-' else '+'
        Sh.fault ("Illegal option ".toList ++ sign :: "o ".toList ++ name)
      readLetters on cs (rest.drop 1)
    else if (optionNames.any fun (_, l) => l = c) then
      setOption on c
      readLetters on cs rest
    else Sh.fault ("Illegal option -".toList ++ [c])

/-- Reads options; gives the arguments after them, and whether they replace the parameters. -/
def readOptions : Nat → List Raw → Sh (List Raw × Bool)
  | 0, args => return (args, false)
  | _ + 1, [] => return ([], false)
  | fuel + 1, arg :: rest => do
    match arg with
    | ['-', '-'] => return (rest, true)
    | '-' :: cs => readOptions fuel (← readLetters true cs rest)
    | '+' :: cs => readOptions fuel (← readLetters false cs rest)
    | _ => return (arg :: rest, true)

/-- Sets options and parameters. -/
def set_ : Builtin := fun args => do
  let (rest, replaces) ← readOptions (args.length + 1) args
  if replaces then modify fun s => { s with parameters := rest }
  return 0

/-! ### Reading -/

/-- Reads a line from a descriptor: its characters, each with whether it was escaped, and whether
the line ended. -/
def readLine (p : Process) (raw : Bool) :
    Nat → List Mark → Action (Except OsError (List Mark × Bool))
  | 0, line => return .ok (line.reverse, false)
  | fuel + 1, line => do
    match ← p.take 0 1 with
    | .error e => return .error e
    | .ok bytes =>
      if bytes.size = 0 then return .ok (line.reverse, false)
      else
        let c := charOf (bytes.get! 0)
        if c = '\n' then return .ok (line.reverse, true)
        else if c = '\x00' then readLine p raw fuel line
        else if c = '\\' && !raw then
          match ← p.take 0 1 with
          | .error e => return .error e
          | .ok bytes =>
            if bytes.size = 0 then return .ok (line.reverse, false)
            else
              let d := charOf (bytes.get! 0)
              if d = '\n' then readLine p raw fuel line
              else readLine p raw fuel ((d, true) :: line)
        else readLine p raw fuel ((c, false) :: line)

/-- Whether a character divides fields, and whether as white space does. -/
def dividesAs (dividers : Raw) (m : Mark) : Bool × Bool :=
  let (c, escaped) := m
  if !escaped && dividers.contains c then (true, c = ' ' || c = '\t' || c = '\n')
  else (false, false)

/-- Drops the white space at the end, and one other divider if the text would be a single field. -/
def lastField (dividers : Raw) (text : List Mark) : Raw :=
  let rest := text.reverse.dropWhile fun m => (dividesAs dividers m).2
  match rest with
  | m :: before =>
    let before := before.dropWhile fun m => (dividesAs dividers m).2
    let isSingle := before.all fun m => !(dividesAs dividers m).1
    if (dividesAs dividers m).1 && isSingle then (before.reverse).map (·.1)
    else (rest.reverse).map (·.1)
  | [] => []

/-- Divides a line into at most so many fields; the last one holds the rest. -/
def divideLine (dividers : Raw) : Nat → List Mark → List Raw
  | 0, _ => []
  | n + 1, text =>
    let text := text.dropWhile fun m => (dividesAs dividers m).2
    if n = 0 then [lastField dividers text]
    else
      let field := text.takeWhile fun m => !(dividesAs dividers m).1
      let rest := text.drop field.length
      let blank := (rest.head?.map fun m => (dividesAs dividers m).2).getD false
      let rest := rest.drop 1
      let rest := if !blank then rest
        else
          let after := rest.dropWhile fun m => (dividesAs dividers m).2
          match after with
          | m :: more => if (dividesAs dividers m).1 then more else after
          | [] => []
      field.map (·.1) :: divideLine dividers n rest

/-- Assigns fields to names; names without a field become empty. -/
def assignFields : List Raw → List Raw → Sh Unit
  | [], _ => return
  | name :: names, fields => do
    Sh.assign name (fields.headD [])
    assignFields names (fields.drop 1)

/-- Reads a line into variables. -/
def read : Builtin := fun args => do
  let (raw, names) : Bool × List Raw := match args with
    | ['-', 'r'] :: ['-', '-'] :: rest => (true, rest)
    | ['-', 'r'] :: rest => (true, rest)
    | ['-', '-'] :: rest => (false, rest)
    | rest => (false, rest)
  match names with
  | [] => Sh.fault "arg count".toList
  | first :: _ =>
    match first with
    | '-' :: c :: _ => Sh.fault ("Illegal option -".toList ++ [c])
    | _ =>
      for name in names do
        if !isName name then Sh.fault (name ++ ": bad variable name".toList)
      let p ← Sh.process [] []
      match ← Sh.act (readLine p raw Machine.everything []) with
      | .error _ =>
        assignFields names []
        return 1
      | .ok (line, ended) =>
        assignFields names (divideLine (← Sh.dividers) names.length line)
        return if ended then 0 else 1

/-! ### Directories -/

/-- The name of a place. -/
def nameOf (place : Place) : Raw :=
  if place.isEmpty then ['/'] else place.flatMap fun name => '/' :: name.map charOf

/-- Writes the working directory. -/
def pwd : Builtin := fun _ => do
  let s ← get
  say (nameOf s.cwd ++ ['\n'])

/-- Changes the working directory. -/
def cd : Builtin := fun args => do
  let args := args.filter fun a => a ≠ ['-', 'L'] && a ≠ ['-', 'P'] && a ≠ ['-', '-']
  let s ← get
  let old := nameOf s.cwd
  let (target, shows) ← match args with
    | [] => pure ((← Sh.value? "HOME".toList).getD [], false)
    | ['-'] :: _ => pure ((← Sh.value? "OLDPWD".toList).getD old, true)
    | r :: _ => pure (r, false)
  if target = [] then return 0
  match (← Sh.machine).find s.cwd target with
  | .ok (place, .directory) =>
    modify fun s => { s with cwd := place }
    Sh.assign "OLDPWD".toList old
    Sh.assign "PWD".toList (nameOf place)
    if shows then say (nameOf place ++ ['\n']) else return 0
  | _ => Sh.fault ("can't cd to ".toList ++ target)

/-! ### Signals -/

/-- The names of signals. -/
def signalNames : List (String × Nat) :=
  [("EXIT", 0), ("HUP", 1), ("INT", 2), ("QUIT", 3), ("ILL", 4), ("TRAP", 5), ("ABRT", 6),
    ("BUS", 7), ("FPE", 8), ("KILL", 9), ("USR1", 10), ("SEGV", 11), ("USR2", 12), ("PIPE", 13),
    ("ALRM", 14), ("TERM", 15), ("STKFLT", 16), ("CHLD", 17), ("CONT", 18), ("STOP", 19),
    ("TSTP", 20), ("TTIN", 21), ("TTOU", 22), ("URG", 23), ("XCPU", 24), ("XFSZ", 25),
    ("VTALRM", 26), ("PROF", 27), ("WINCH", 28), ("IO", 29), ("PWR", 30), ("SYS", 31)]

/-- The number of a signal. -/
def signal? (r : Raw) : Option Nat :=
  if r ≠ [] && r.all isDigit then
    let n := numeral 10 r
    if n ≤ 64 then some n else none
  else signalNames.lookup (String.ofList (r.map toCapital))

/-- Whether a signal does nothing by itself. -/
def isHarmless (n : Nat) : Bool := [0, 17, 18, 23, 28].contains n

/-- The outermost shell takes notice of a signal. -/
def receive (n : Nat) : Sh Unit := do
  let s ← get
  match (s.outer.getD s.traps).lookup n with
  | some [] => return
  | some _ => modify fun s => { s with arrived := s.arrived ++ [n] }
  | none => if isHarmless n then return else throw (.killed n)

/-- Sends signals to processes; there is none but the shell. -/
def killTargets (own : Raw) (n : Nat) : List Raw → Nat → Sh Nat
  | [], status => return status
  | r :: rest, status => do
    if r = own || r = ['0'] then
      receive n
      killTargets own n rest status
    else
      let digits := if r.head? = some '-' then r.drop 1 else r
      if digits ≠ [] && digits.all isDigit then
        Sh.warn "No such process\n".toList
        killTargets own n rest 1
      else Sh.fault ("Illegal number: ".toList ++ r)

/-- How `kill` is used. -/
def killUsage : Raw :=
  ("Usage: kill [-s sigspec | -signum | -sigspec] [pid | job]... or\n" ++
    "kill -l [exitstatus]").toList

/-- Sends a signal; `own` is the number of the shell's process. -/
def kill (own : Raw) : Builtin := fun args => do
  let send (spec : Raw) (rest : List Raw) : Sh Nat := do
    match signal? spec with
    | some n => if rest.isEmpty then Sh.fault killUsage else killTargets own n rest 0
    | none => Sh.fault ("invalid signal number or name: ".toList ++ spec)
  match args with
  | [] => Sh.fault killUsage
  | ['-', 's'] :: spec :: rest => send spec rest
  | ['-', '-'] :: rest => killTargets own 15 rest 0
  | ('-' :: spec) :: rest =>
    if spec = [] then Sh.fault killUsage
    else if spec.head? = some 's' && signal? spec = none then send (spec.drop 1) rest
    else send spec rest
  | rest => killTargets own 15 rest 0

/-- Says what is done on signals. -/
def trap : Builtin := fun args => do
  let args := if args.head? = some ['-', '-'] then args.drop 1 else args
  match args with
  | [] => return 0
  | action :: rest =>
    let alone := rest.isEmpty || (action ≠ [] && action.all isDigit)
    let (action, signals) : Option Raw × List Raw :=
      if alone then (none, args) else if action = ['-'] then (none, rest) else (some action, rest)
    let rec go : List Raw → Nat → Sh Nat
      | [], status => return status
      | r :: rest, status => do
        match signal? r with
        | some n =>
          modify fun s =>
            let others := s.traps.filter (·.1 ≠ n)
            { s with traps := match action with
                | some action => others ++ [(n, action)]
                | none => others }
          go rest status
        | none =>
          Sh.warn (r ++ ": bad trap".toList)
          go rest 1
    go signals 0

end Builtin

/-- The built-in commands by name. -/
def builtin? (own : Raw) (name : Raw) : Option Builtin :=
  match String.ofList name with
  | ":" | "true" => some (Builtin.idle 0)
  | "false" => some (Builtin.idle 1)
  | "echo" => some Builtin.echo
  | "printf" => some Builtin.printf
  | "test" => some (Builtin.test false)
  | "[" => some (Builtin.test true)
  | "exit" => some Builtin.exit
  | "return" => some Builtin.return_
  | "break" => some (Builtin.leave .break)
  | "continue" => some (Builtin.leave .continue)
  | "shift" => some Builtin.shift
  | "export" => some Builtin.export_
  | "readonly" => some Builtin.readonly
  | "unset" => some Builtin.unset
  | "local" => some Builtin.local_
  | "set" => some Builtin.set_
  | "read" => some Builtin.read
  | "pwd" => some Builtin.pwd
  | "cd" | "chdir" => some Builtin.cd
  | "kill" => some (Builtin.kill own)
  | "trap" => some Builtin.trap
  | _ => none

/-- Whether a command is one that runs or looks at other commands and is built in. -/
def isRunner (name : Raw) : Bool :=
  ["eval", ".", "exec", "command"].contains (String.ofList name)

/-- Whether a command is built in. -/
def isBuiltin (name : Raw) : Bool := (builtin? [] name).isSome || isRunner name

/-- Whether a mistake in a built-in command ends the shell. -/
def isSpecialBuiltin (name : Raw) : Bool := specialNames.contains (String.ofList name)

end LexicalModel.Command.Shell
