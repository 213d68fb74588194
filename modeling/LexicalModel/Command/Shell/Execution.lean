import LexicalModel.Command.Shell.Lookup
import LexicalModel.Command.Shell.Redirect

/-!
# Running scripts

How each command of a script runs.  Whatever needs scripts inside of a script gets them run by its
host, whose scripts may not nest as deep; so every script comes to its end or runs out of depth.

A part of a script may run in a shell of its own: it knows what the first one knows, but what it
changes is lost at its end.  The parts of a pipeline run one after the other, each reading what the
one before it has written.

* `Host` : what runs the scripts inside of a script
* `Host.simple` : simple commands
* `execute` : all commands
-/

namespace LexicalModel.Command.Shell

/-- Runs a script; `tested` says that somebody looks at its status. -/
abbrev Runner := (tested : Bool) → Script → Sh Unit

/-- What runs the scripts inside of a script. -/
structure Host where
  /-- The programs that there are. -/
  kit : Kit
  /-- Runs a script. -/
  run : Runner

/-- Sets the status. -/
def setStatus (n : Nat) : Sh Unit := modify fun s => { s with status := n }

/-- What the system calls the ends by signals that a shell tells about. -/
def signalWords : Nat → Option String
  | 1 => some "Hangup"
  | 3 => some "Quit"
  | 6 => some "Aborted"
  | 9 => some "Killed"
  | 11 => some "Segmentation fault"
  | 15 => some "Terminated"
  | _ => none

/-- The status of a command that was waited for. -/
def statusOf : ExitStatus → Sh Nat
  | .code n => return n
  | .signal n => do
    match signalWords n with
    | some words =>
      let _ ← Sh.writeTo 2 (words.toList ++ ['\n'])
    | none => pure ()
    return 128 + n

namespace Host

/-! ### Scripts as texts -/

/-- Runs the lines of a text that are left. -/
def lines (h : Host) (tested : Bool) : Nat → Input → Sh Unit
  | 0, _ => return
  | fuel + 1, i => do
    if i.rest = [] then return
    match i.nextLine with
    | .error flaw =>
      modify fun s => { s with line := flaw.line }
      Sh.fault flaw.words
    | .ok (script, i) =>
      modify fun s => { s with documents := i.documents ++ s.documents, nextDocument := i.next }
      match script with
      | some script => h.run tested script
      | none => pure ()
      h.lines tested fuel { i with documents := [] }

/-- Runs a text. -/
def text (h : Host) (tested : Bool) (r : Raw) : Sh Unit := do
  h.lines tested (r.length + 1) { rest := r, next := (← get).nextDocument }

/-- Runs what is to be done on signals that have arrived. -/
def heed (h : Host) : Nat → Sh Unit
  | 0 => return
  | fuel + 1 => do
    let s ← get
    match s.arrived with
    | [] => return
    | n :: rest =>
      if s.outer.isSome then return
      set { s with arrived := rest }
      h.text false ((s.traps.lookup n).getD [])
      setStatus s.status
      h.heed fuel

/-! ### Shells of their own -/

/-- How a shell ended. -/
inductive End where
  /-- With a status. -/
  | code (n : Nat)
  /-- By a signal. -/
  | killed (signal : Nat)
  /-- As another program. -/
  | replaced (status : ExitStatus)

/-- How a leap ends a shell. -/
def endOf : Leap → Sh End
  | .exit n | .return n => return .code n
  | .mistake => return .code 2
  | .break _ | .continue _ => do return .code (← get).status
  | .killed n => return .killed n
  | .replaced status => return .replaced status

/-- Does what is to be done at the end of a shell. -/
def farewell (h : Host) (n : Nat) : Sh End := do
  match (← get).traps.lookup 0 with
  | none => return .code n
  | some action =>
    modify fun s => { s with traps := s.traps.filter (·.1 ≠ 0), status := n, loops := 0 }
    try
      h.text false action
      return .code n
    catch leap => endOf leap

/-- Runs a shell to its end. -/
def toEnd (h : Host) (body : Sh Unit) : Sh End := do
  let ended ← try
      body
      pure (.code (← get).status)
    catch leap => endOf leap
  match ended with
  | .code n => h.farewell n
  | other => return other

/-- Runs something in a shell of its own, and gives its status.  What kills it has killed the
outermost shell. -/
def apart (h : Host) (body : Sh Unit) : Sh Nat := do
  let s ← get
  set { s with
    traps := s.traps.filter (·.2 = [])
    outer := some (s.outer.getD s.traps) }
  let ended ← h.toEnd body
  let arrived := (← get).arrived
  set { s with arrived }
  match ended with
  | .code n => return n
  | .replaced status => statusOf status
  | .killed n => throw (.killed n)

/-- The output of a script, without newlines at its end. -/
def capture (h : Host) (body : Option Script) : Sh Raw := do
  let pipe ← Sh.act (modifyGet (·.add (.pipe ByteArray.empty 0)))
  let status ← h.apart do
    Target.connect 1 pipe
    setStatus 0
    match body with
    | some script => h.run false script
    | none => pure ()
  modify fun s => { s with taken := some status, status }
  let bytes := (← Sh.machine).unread pipe
  let r := (Raw.ofBytes bytes).filter (· ≠ '\x00')
  return (r.reverse.dropWhile (· = '\n')).reverse

/-- What expands words. -/
def expander (h : Host) : Expander := ⟨h.capture⟩

/-! ### Redirections -/

/-- Runs something with redirections; nothing is run where they fail. -/
def redirected (h : Host) (rs : List Redirection) (body : Sh Unit) : Sh Unit := do
  let saved := (← get).descriptors
  let targets ← h.expander.targets rs
  let failed ← try
      Target.applyAll targets
      pure false
    catch _ => pure true
  let restore : Sh Unit := modify fun s => { s with descriptors := saved }
  if failed then
    restore
    setStatus 2
  else Sh.finally_ body restore

/-! ### Simple commands -/

/-- The command that is meant by what follows `command`; none where that is to say what names stand
for. -/
def afterCommand : List Raw → Option (List Raw)
  | [] => none
  | arg :: rest =>
    if arg = ['-', 'p'] || arg = ['-', '-'] then afterCommand rest
    else if arg.head? = some '-' && 1 < arg.length then none
    else if arg = "command".toList then some ((afterCommand rest).getD (arg :: rest))
    else some (arg :: rest)

/-- The command that is meant by arguments, and whether they start with `command`. -/
def bareCall : List Raw → List Raw × Bool
  | [] => ([], false)
  | first :: rest =>
    if first = "command".toList then ((afterCommand rest).getD (first :: rest), true)
    else (first :: rest, false)

/-- Whether words that look like assignments are taken as such. -/
def takesAssignments (args : List Raw) : Sh Bool := do
  match (bareCall args).1 with
  | name :: _ =>
    let s ← get
    return ["export", "readonly", "local"].contains (String.ofList name) &&
      (s.functions.lookup name).isNone
  | [] => return false

/-- Expands the words of a command after those that were expanded already. -/
def expandWords (h : Host) (before : List Raw) : List Word → Sh (List Raw)
  | [] => return before
  | w :: ws => do
    let args ← if (← takesAssignments before) && (Piece.assignment? w).isSome then
        pure [← h.expander.text w]
      else h.expander.arguments w
    h.expandWords (before ++ args) ws

/-- Makes an assignment; a passing one is handed on to programs. -/
def assign (h : Host) (passing : Bool) (w : Word) : Sh Raw := do
  match Piece.assignment? w with
  | none => return []
  | some (name, value) =>
    let r ← h.expander.text value
    Sh.assign name r
    if passing then Sh.putVariable name { value := some r, exported := true }
    return name ++ '=' :: r

/-- The names that assignments assign to. -/
def assignedNames (assignments : List Word) : List Raw :=
  assignments.filterMap fun w => (Piece.assignment? w).map (·.1)

/-- Puts variables back. -/
def putBackVariables (saved : List (Raw × Option Variable)) : Sh Unit :=
  saved.forM fun (name, v) =>
    match v with
    | some v => Sh.putVariable name v
    | none => modify fun s => { s with bindings := s.bindings.filter (·.1 ≠ name) }

/-- Shows a command that is about to run. -/
def trace (args : List Raw) : Sh Unit := do
  if ← Sh.isSet 'x' then
    let start := (← Sh.value? "PS4".toList).getD "+ ".toList
    let _ ← Sh.writeTo 2 (start ++ Raw.join [' '] args ++ ['\n'])

/-- So many functions may run inside of each other. -/
def mostCalls : Nat := 1000

/-- Calls a function. -/
def call (h : Host) (tested : Bool) (body : Script) (args : List Raw) : Sh Unit := do
  let s ← get
  if mostCalls ≤ s.calls then
    Sh.fault "Maximum function recursion depth (1000) reached".toList
  set { s with
    parameters := args, loops := 0, calls := s.calls + 1, locals := [] :: s.locals }
  let restore : Sh Unit := do
    putBackVariables ((← get).locals.headD [])
    modify fun t => { t with
      parameters := s.parameters, loops := s.loops, calls := s.calls, locals := s.locals }
  Sh.finally_ (do
    try h.run tested body
    catch
      | .return n => setStatus n
      | leap => throw leap) restore

/-- Starts a program and waits for its end. -/
def start (h : Host) (args : List Raw) : Sh Unit := do
  let name := args.headD []
  match ← locate h.kit name with
  | .error why =>
    Sh.warn (name ++ ": ".toList ++ why.words)
    setStatus (if name.contains '/' then why.status else 127)
  | .ok (_, program) =>
    let p ← Sh.process name (args.drop 1)
    let status ← Sh.act (program p)
    setStatus (← statusOf status)

/-- Lets a program take the place of the shell. -/
def replaceShell (h : Host) (args : List Raw) : Sh Nat := do
  match args with
  | [] => return 0
  | name :: rest =>
    match ← locate h.kit name with
    | .error why =>
      Sh.warn (name ++ ": ".toList ++ why.words)
      throw (.exit why.status)
    | .ok (_, program) =>
      let status ← Sh.act (program (← Sh.process name rest))
      throw (.replaced status)

/-- The path of a file with commands: one in a directory of `PATH`, or a name with a slash. -/
def fileOf (name : Raw) : Sh Raw := do
  if name.contains '/' then return name
  else
    let s ← get
    let m ← Sh.machine
    let isFile (path : Raw) : Bool := match m.find s.cwd path with
      | .ok (_, .file _) => true
      | _ => false
    let paths := (parts ((← Sh.value? "PATH".toList).getD [])).map fun dir =>
      if dir = [] then name else dir ++ '/' :: name
    match paths.find? isFile with
    | some path => return path
    | none => Sh.fault (name ++ ": not found".toList)

/-- Runs the commands of a file. -/
def source (h : Host) (tested : Bool) (args : List Raw) : Sh Nat := do
  match args with
  | [] => return 0
  | name :: _ =>
    let path ← fileOf name
    match ← Sh.act ((← Sh.process [] []).readFile path) with
    | .error e => Sh.fault (Target.refusal .input path e)
    | .ok bytes =>
      setStatus 0
      try h.text tested (Raw.ofBytes bytes)
      catch
        | .return n => setStatus n
        | leap => throw leap
      return (← get).status

/-- The built-in commands that run or look at other commands. -/
def runner? (h : Host) (tested : Bool) (name : Raw) : Option Builtin :=
  match String.ofList name with
  | "eval" => some fun args => do
    let saved := (← get).status
    setStatus 0
    match args with
    | [] => pure ()
    | args =>
      setStatus saved
      let r := Raw.join [' '] args
      if r.all isSpace then setStatus 0 else h.text tested r
    return (← get).status
  | "." => some (h.source tested)
  | "exec" => some h.replaceShell
  | "command" => some fun args =>
    match args with
    | ['-', 'v'] :: name :: _ => Builtin.describe h.kit name
    | ('-' :: c :: _) :: _ =>
      if c = 'v' || c = 'p' then return 0
      else Sh.fault ("Illegal option -".toList ++ [c])
    | _ => return 0
  | _ => none

/-- Runs a built-in command; a mistake ends only the command unless it is a special one. -/
def builtin (special : Bool) (body : Builtin) (name : Raw) (args : List Raw) : Sh Unit := do
  let speaker := (← get).speaker
  modify fun s => { s with speaker := some name }
  let restore : Sh Unit := modify fun s => { s with speaker }
  Sh.finally_ (do
    try setStatus (← body args)
    catch
      | .mistake => if special then throw .mistake else setStatus 2
      | leap => throw leap) restore

/-- Runs a simple command. -/
def simple (h : Host) (tested : Bool) (assignments words : List Word)
    (rs : List Redirection) : Sh Unit := do
  modify fun s => { s with taken := none }
  let args ← h.expandWords [] words
  let (args, bare) := bareCall args
  let name := args.headD []
  let s ← get
  let function := if bare then none else s.functions.lookup name
  let body? := if function.isSome then none
    else (h.runner? tested name).orElse fun _ =>
      builtin? (Raw.ofNat Expander.processNumber) name
  let special := !args.isEmpty && !bare && function.isNone && isSpecialBuiltin name
  let saved := s.descriptors
  let targets ← h.expander.targets rs
  let failed ← try
      Target.applyAll targets
      pure false
    catch _ => pure true
  let keeps := name = "exec".toList && body?.isSome && !failed
  let restore : Sh Unit :=
    if keeps then pure () else modify fun s => { s with descriptors := saved }
  Sh.finally_ (do
    if failed then
      setStatus 2
      if special then throw .mistake
    else
      let passing := !args.isEmpty && !special
      let old := (← get).bindings
      let names := if passing then assignedNames assignments else []
      let back := putBackVariables (names.map fun name => (name, old.lookup name))
      Sh.finally_ (do
        let shown ← assignments.mapM (h.assign passing)
        if !(shown.isEmpty && args.isEmpty) then trace (shown ++ args)
        match args, function, body? with
        | [], _, _ => setStatus ((← get).taken.getD 0)
        | _ :: rest, some f, _ => h.call tested f rest
        | _ :: rest, none, some b => builtin special b name rest
        | args, none, none => h.start args) back) restore

/-! ### Compound commands -/

/-- A turn of a loop: whether the loop goes on. -/
def turn (body : Sh Unit) : Sh Bool := do
  try
    body
    return true
  catch
    | .break n =>
      setStatus 0
      if 1 < n then throw (.break (n - 1)) else return false
    | .continue n =>
      setStatus 0
      if 1 < n then throw (.continue (n - 1)) else return true
    | leap => throw leap

/-- Does something inside of a loop. -/
def inLoop (body : Sh Unit) : Sh Unit := do
  let loops := (← get).loops
  modify fun s => { s with loops := loops + 1 }
  Sh.finally_ body (modify fun s => { s with loops })

/-- The turns of a loop with a test; `last` is the status of the turn before. -/
def turns (h : Host) (tested untilSuccess : Bool) (test body : Script) :
    Nat → (last : Nat) → Sh Unit
  | 0, last => setStatus last
  | fuel + 1, last => do
    let judged : Option Bool ← try
        h.run true test
        pure (some (((← get).status = 0) != untilSuccess))
      catch
        | .break n =>
          if 1 < n then throw (.break (n - 1)) else pure (some false)
        | .continue n =>
          if 1 < n then throw (.continue (n - 1)) else pure none
        | leap => throw leap
    match judged with
    | none => h.turns tested untilSuccess test body fuel last
    | some false => setStatus last
    | some true =>
      if ← turn (h.run tested body) then
        h.turns tested untilSuccess test body fuel (← get).status

/-- The turns of a loop through words. -/
def eachTurn (h : Host) (tested : Bool) (name : Raw) (body : Script) : List Raw → Sh Unit
  | [] => return
  | r :: rest => do
    Sh.assign name r
    if ← turn (h.run tested body) then h.eachTurn tested name body rest

/-- Whether one of some patterns matches a text. -/
def matchesAny (h : Host) (r : Raw) : List Word → Sh Bool
  | [] => return false
  | w :: ws => do
    let g ← h.expander.pattern w
    if g.matchesText r then return true else h.matchesAny r ws

/-- Runs the first arm with a pattern that matches a text. -/
def select (h : Host) (tested : Bool) (r : Raw) : List (List Word × Option Script) → Sh Unit
  | [] => setStatus 0
  | (patterns, body) :: rest => do
    if ← h.matchesAny r patterns then
      match body with
      | some script => h.run tested script
      | none => setStatus 0
    else h.select tested r rest

/-- Runs the parts of a pipeline; the first reads from a channel, or what the shell reads. -/
def pipeParts (h : Host) (tested : Bool) (input : Option Nat) : List Script → Sh Unit
  | [] => return
  | script :: rest => do
    let output ← match rest with
      | [] => pure none
      | _ => do
        let pipe ← Sh.act (modifyGet (·.add (.pipe ByteArray.empty 0)))
        pure (some pipe)
    let status ← h.apart do
      match input with
      | some pipe => Target.connect 0 pipe
      | none => pure ()
      match output with
      | some pipe => Target.connect 1 pipe
      | none => pure ()
      h.run tested script
    setStatus status
    match output with
    | some pipe => h.pipeParts tested (some pipe) rest
    | none => pure ()

/-- Ends the shell after a command that failed, if that is asked for. -/
def checkStatus (tested : Bool) : Sh Unit := do
  let status := (← get).status
  if status ≠ 0 && !tested && (← Sh.isSet 'e') then throw (.exit status)

end Host

/-- Runs a script; the depth bounds how deep scripts nest. -/
def execute (kit : Kit) : (depth : Nat) → Runner
  | 0, _, _ => Sh.fault "Maximum function recursion depth (1000) reached".toList
  | depth + 1, tested, script => do
    let h : Host := ⟨kit, execute kit depth⟩
    if ← Sh.isSet 'n' then return
    match script with
    | .simple line assignments words rs =>
      modify fun s => { s with line }
      h.simple tested assignments words rs
      h.heed 100
      Host.checkStatus tested
    | .pipeline line parts =>
      modify fun s => { s with line }
      h.pipeParts tested none parts
      h.heed 100
      Host.checkStatus tested
    | .sequence first second =>
      h.run tested first
      h.run tested second
    | .both first second =>
      h.run true first
      if (← get).status = 0 then h.run tested second
    | .either first second =>
      h.run true first
      if (← get).status ≠ 0 then h.run tested second
    | .negation body =>
      h.run true body
      setStatus (if (← get).status = 0 then 1 else 0)
    | .subshell body =>
      setStatus (← h.apart do
        match body with
        | some script => h.run tested script
        | none => pure ())
      h.heed 100
      Host.checkStatus tested
    | .redirected line body rs =>
      modify fun s => { s with line }
      h.redirected rs (h.run tested body)
    | .choice test yes no =>
      h.run true test
      if (← get).status = 0 then h.run tested yes
      else
        match no with
        | some script => h.run tested script
        | none => setStatus 0
    | .loop untilSuccess test body =>
      Host.inLoop (h.turns tested untilSuccess test body Machine.everything 0)
    | .each line name words body =>
      modify fun s => { s with line }
      let args ← h.expander.allArguments words
      setStatus 0
      Host.inLoop (h.eachTurn tested name body args)
    | .select line word arms =>
      modify fun s => { s with line }
      let r ← h.expander.text word
      h.select tested r arms
    | .define name body =>
      modify fun s => { s with functions := Sh.update name body s.functions, status := 0 }

end LexicalModel.Command.Shell
