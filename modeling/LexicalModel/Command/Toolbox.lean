import LexicalModel.Command.Concatenate
import LexicalModel.Command.Edit.Program
import LexicalModel.Command.Printf.Program
import LexicalModel.Command.Replace
import LexicalModel.Command.Search.Program
import LexicalModel.Command.Shell.Program
import LexicalModel.Command.Words
import LexicalModel.FileSystem.Hosted
import LexicalModel.Text.Blank
import LexicalModel.Transpiler

/-!
# Commands as transpilers

A command line may stand for a transpiler: its program gets a source as input, and what it writes is
the script.  The program runs on a disk, which holds the programs and may hold whatever else they
read or write.

* `toolbox` : the programs by name
* `systemDisk` : a disk with the programs in their places
* `Transpiler.ofCommand` : the transpiler of a command line
-/

namespace LexicalModel.Command

/-- The programs by name; the depth bounds how many shells may run inside of each other. -/
def toolbox : (depth : Nat) → Shell.Kit
  | 0, _ => none
  | depth + 1, name =>
    match name with
    | "cat" => some Concatenate.program
    | "tr" => some Replace.program
    | "sed" => some Edit.program
    | "grep" => some Search.program
    | "printf" => some Printf.program
    | "true" => some fun _ => return .code 0
    | "sh" => some (Shell.program (toolbox depth))
    | _ => none

/-- So many shells may run inside of each other. -/
def shellDepth : Nat := 60

/-- The names of the programs. -/
def programNames : List String := ["cat", "tr", "sed", "grep", "printf", "true", "sh"]

/-- The directories in which programs are looked for. -/
def searchDirs : List String :=
  ["/usr/local/sbin", "/usr/local/bin", "/usr/sbin", "/usr/bin", "/sbin", "/bin"]

/-- A disk with the programs and the devices in their places. -/
def systemDisk : Disk :=
  let dirs : List (List String) := [["bin"], ["dev"], ["dev", "fd"], ["etc"], ["home"], ["root"],
    ["sbin"], ["tmp"], ["usr"], ["usr", "bin"], ["usr", "local"], ["usr", "local", "bin"],
    ["usr", "local", "sbin"], ["usr", "sbin"], ["var"], ["var", "tmp"]]
  let devices : List (List String × Special) :=
    [(["dev", "null"], .null), (["dev", "stdin"], .channel 0), (["dev", "stdout"], .channel 1),
      (["dev", "stderr"], .channel 2)] ++
    (List.range 10).map fun n => (["dev", "fd", toString n], Special.channel n)
  let programs : List (List String × Special) := programNames.flatMap fun name =>
    [(["bin", name], .program name), (["usr", "bin", name], .program name)]
  let entries := dirs.foldl
    (fun es dir => es.insert (Place.ofNames dir) DiskEntry.directory) Std.TreeMap.empty
  let entries := (devices ++ programs).foldl
    (fun es (names, what) => es.insert (Place.ofNames names) (DiskEntry.special what)) entries
  ⟨entries, []⟩

/-- The program of a name, and the name it is started by: one with a slash is a path, and any other
is looked for. -/
def findProgram (d : Disk) (name : String) : Option (String × Program) :=
  let programAt (path : String) : Option (String × Program) :=
    match d.walk (.ofText path) with
    | .ok (_, .special (.program tool)) => (toolbox shellDepth tool).map (path, ·)
    | _ => none
  if name.contains '/' then programAt name
  else searchDirs.findSome? fun dir => programAt (dir ++ "/" ++ name)

/-- How much of its input a program may leave unread without hindering whoever writes it. -/
def pipeCapacity : Nat := 65536

/-- The variables that programs find. -/
def environment : List (String × Raw) :=
  [("HOME", "/root".toList), ("PATH", (":".intercalate searchDirs).toList)]

/-- The script that a program makes of a source, and the disk after that.  A failure of the program
comes first, then input that it left unread though it does not fit into the pipe, then output that
is no text. -/
def transpileWith (name : String) (tool : Program) (args : List String) (source : String)
    (d : Disk) : Result String × Disk :=
  let pipe (bytes : ByteArray) : Channel := .pipe bytes 0
  let m : Machine :=
    ⟨d, #[pipe (Text.Utf8.encode source), pipe ByteArray.empty, pipe ByteArray.empty]⟩
  let p : Process :=
    { name := Raw.ofString name, args := args.map Raw.ofString, environment, cwd := d.cwd
      descriptors := [(0, 0), (1, 1), (2, 2)] }
  let (status, m) := (tool p).run m
  let result : Result String :=
    if status ≠ .code 0 then
      let complaint := Text.trim (Text.Utf8.decodeLossy (m.unread 2))
      Result.fail (.commandFailed status complaint)
    else if pipeCapacity < (m.unread 0).size then
      Result.within .writeInput (Result.fail (.os .brokenPipe))
    else
      Result.within .decodeOutput (Result.ofCause .notText (Text.Utf8.decode (m.unread 1)))
  (result, m.disk)

end LexicalModel.Command

namespace LexicalModel.Transpiler

variable {σ : Type} [HasDisk σ]

open Command in
/-- The transpiler of a command line. -/
def ofCommand (s : σ) (line : String) : Result (Transpiler σ) :=
  match split? line with
  | none => Result.within (.parseCommand line) (Result.fail .openQuote)
  | some [] => Result.fail .emptyCommand
  | some (name :: args) =>
    match findProgram (HasDisk.disk s) name with
    | none => Result.within (.locateProgram name) (Result.fail .unknownProgram)
    | some (path, tool) => .ok fun source s =>
      let (result, d) := transpileWith path tool args source.text (HasDisk.disk s)
      (result, HasDisk.withDisk s d)

end LexicalModel.Transpiler
