import LexicalModel.Command.Shell.Expansion

/-!
# Redirections

A command may have its descriptors lead elsewhere: to files, to where other descriptors lead, or to
texts in the script.  All names are expanded first, and then the descriptors are changed one by one.

* `Target` : where a descriptor is to lead
* `Expander.targets` : what redirections ask for
* `Target.applyAll` : changing the descriptors
-/

namespace LexicalModel.Command.Shell

/-- Where a descriptor is to lead. -/
inductive Target where
  /-- To a file. -/
  | file (mode : Mode) (name : Raw)
  /-- Where another descriptor leads. -/
  | same (descriptor : Nat)
  /-- Nowhere. -/
  | closed
  /-- To a text. -/
  | text (r : Raw)

/-- What a redirection asks for. -/
def Expander.target (x : Expander) : Redirection → Sh (Nat × Target)
  | .file d mode name => do
    let name ← x.text name
    return (d, .file mode name)
  | .duplicate d target => do
    match ← x.text target with
    | ['-'] => return (d, .closed)
    | [c] =>
      if isDigit c then return (d, .same (numeral 10 [c]))
      else Sh.fault "Syntax error: Bad fd number".toList
    | _ => Sh.fault "Syntax error: Bad fd number".toList
  | .document d index => do
    match (← get).documents.lookup index with
    | some w =>
      let r ← x.text w
      return (d, .text r)
    | none => return (d, .text [])

/-- What redirections ask for. -/
def Expander.targets (x : Expander) : List Redirection → Sh (List (Nat × Target))
  | [] => return []
  | r :: rest => do
    let first ← x.target r
    return first :: (← x.targets rest)

namespace Target

/-- How a file is opened. -/
def access : Mode → Access
  | .input => .reading
  | .output => .writing
  | .append => .appending

/-- The words about a file that cannot be opened. -/
def refusal (mode : Mode) (name : Raw) (e : OsError) : Raw :=
  let (verb, missing) : String × String :=
    if mode = .input then ("cannot open ", "No such file")
    else ("cannot create ", "Directory nonexistent")
  let words := match e with
    | .notFound | .notADirectory => missing
    | e => e.words
  verb.toList ++ name ++ ": ".toList ++ words.toList

/-- Lets a descriptor lead to a channel. -/
def connect (d channel : Nat) : Sh Unit :=
  modify fun s => { s with descriptors := (d, channel) :: s.descriptors.filter (·.1 ≠ d) }

/-- Changes a descriptor. -/
def apply (d : Nat) : Target → Sh Unit
  | .file mode name => do
    let s ← get
    match (← Sh.machine).openFile s.cwd s.descriptors name (access mode) with
    | .ok (i, m) =>
      Sh.act (set m)
      connect d i
    | .error e => Sh.fault (refusal mode name e)
  | .same source => do
    match (← get).descriptors.lookup source with
    | some i => connect d i
    | none => Sh.fault (Raw.ofNat source ++ ": Bad file descriptor".toList)
  | .closed => modify fun s => { s with descriptors := s.descriptors.filter (·.1 ≠ d) }
  | .text r => do
    let i ← Sh.act (modifyGet (·.add (.pipe r.toBytes 0)))
    connect d i

/-- Changes descriptors one by one. -/
def applyAll (targets : List (Nat × Target)) : Sh Unit :=
  targets.forM fun (d, t) => t.apply d

end Target

end LexicalModel.Command.Shell
