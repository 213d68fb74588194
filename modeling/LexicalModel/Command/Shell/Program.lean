import LexicalModel.Command.Shell.Execution

/-!
# The command `sh`

Runs the commands of a text that is given as an argument, of a file, or of its input.

* `program` : the command
-/

namespace LexicalModel.Command.Shell

/-- Scripts may nest that deep while they run. -/
def executionDepth : Nat := 20000

/-- Reads the options of the shell; gives the arguments after them, and whether the commands are
given as an argument. -/
def readInvocation : Nat → (given : Bool) → List Raw → Sh (List Raw × Bool)
  | 0, given, args => return (args, given)
  | _ + 1, given, [] => return ([], given)
  | fuel + 1, given, arg :: rest => do
    match arg with
    | ['-'] | ['-', '-'] => return (rest, given)
    | sign :: letters =>
      if sign = '-' || sign = '+' then
        let others := letters.filter fun c => c ≠ 'c' && c ≠ 'l'
        let rest ← Builtin.readLetters (sign = '-') others rest
        readInvocation fuel (given || letters.contains 'c') rest
      else return (arg :: rest, given)
    | [] => return (arg :: rest, given)

/-- The variables that a shell starts with. -/
def firstVariables (p : Process) : List (Raw × Variable) :=
  let own : List (Raw × Variable) := [("IFS", " \t\n"), ("PS4", "+ "), ("PPID", "4241"),
      ("PATH", "/usr/local/sbin:/usr/local/bin:/usr/sbin:/usr/bin:/sbin:/bin")].map
    fun (name, value) => (name.toList, { value := some value.toList })
  let place := Builtin.nameOf p.cwd
  let handed : List (Raw × Variable) := p.environment.filterMap fun (name, value) =>
    if isName name.toList && name ≠ "IFS" then
      some (name.toList, { value := some value, exported := true })
    else none
  let all := handed.foldl (fun vs (name, v) => Sh.update name v vs) own
  let exported := ((all.lookup "PWD".toList).map (·.exported)).getD false
  Sh.update "PWD".toList { value := some place, exported } all

/-- Runs what a shell is asked to run. -/
def invoke (h : Host) (p : Process) : Sh Unit := do
  let (rest, given) ← readInvocation (p.args.length + 1) false p.args
  if given then
    match rest with
    | [] => Sh.fault "-c requires an argument".toList
    | text :: rest =>
      modify fun s => { s with name := rest.headD s.name, parameters := rest.drop 1, line := 1 }
      h.text false text
  else if rest.isEmpty || (← Sh.isSet 's') then
    Builtin.setOption true 's'
    modify fun s => { s with parameters := rest, line := 1 }
    match ← Sh.act (p.takeAll 0) with
    | .ok bytes => h.text false (Raw.ofBytes bytes)
    | .error _ => pure ()
  else
    let file := rest.headD []
    match ← Sh.act (p.readFile file) with
    | .ok bytes =>
      modify fun s => { s with name := file, parameters := rest.drop 1, line := 1 }
      h.text false (Raw.ofBytes bytes)
    | .error .isADirectory => pure ()
    | .error e => Sh.fault (Target.refusal .input file e)

/-- The command. -/
def program (kit : Kit) : Program := fun p => do
  let h : Host := ⟨kit, execute kit executionDepth⟩
  let session : Session :=
    { name := p.name, line := 0, bindings := firstVariables p, cwd := p.cwd
      descriptors := p.descriptors }
  let (ended, _) ← (h.toEnd (invoke h p)).run.run session
  match ended with
  | .ok (.code n) => return .code (n % 256)
  | .ok (.killed n) => return .signal n
  | .ok (.replaced status) => return status
  | .error _ => return .code 2

end LexicalModel.Command.Shell
