import LexicalModel.CommandLine.Run
import LexicalModel.FileSystem.Disk
import Std.Time.DateTime.Timestamp

/-!
# The program

Commands run against a `Disk` that holds what they need of the real one.  Where a run misses a file
that is really there, the file is added and the command runs again; what the last run wrote is then
written for real.
-/

namespace LexicalModel.CommandLine

/-- How the program is called. -/
def usage : String :=
  "Compile lexical models into a model script, package and model_info\n\n" ++
  "Usage: kmlmc <COMMAND>\n\n" ++
  "Commands:\n" ++
  "  build     Compile the model in a build directory into script, package and model_info\n" ++
  "  identify  Resolve the model identifier and its group/author/language location\n\n" ++
  "Options of build:\n" ++
  "  --dir <DIR>            Build directory (defaults to the current directory)\n" ++
  "  --model-source <PATH>  Model source description (defaults to ../source/<id>.model.json)\n" ++
  "  --config <PATH>        Compiler config file\n" ++
  "  --transpiler <CMD>     Transpiler command line for custom sources (overrides config)\n" ++
  "  --verbose              Enable debug logging\n\n" ++
  "Options of identify:\n" ++
  "  --dir <DIR>            Build directory (defaults to the current directory)\n" ++
  "  --json                 Emit machine-readable JSON output\n" ++
  "  --verbose              Enable debug logging\n"

/-- The version of the program. -/
def versionLine : String := "kmlmc 0.1.0\n"

/-- Why arguments are refused, in words. -/
def UsageError.message : UsageError → String
  | .unknownArgument => "unexpected argument found"
  | .invalidCommand => "unrecognized command"
  | .invalidValue => "a value is required for an option but none was supplied"
  | .repeatedOption => "an option cannot be used multiple times"
  | .unwantedValue => "unexpected value for an option found; no more were expected"
  | .help | .version | .missingCommand => "a command is required"

/-- The build directory that a command is about. -/
def Command.dir : Command → Option Path
  | .build dir _ _ _ _ => dir
  | .identify dir _ _ => dir

/-- Whether a command is to say more. -/
def Command.verbose : Command → Bool
  | .build _ _ _ _ verbose => verbose
  | .identify _ _ verbose => verbose

/-- The place of a path. -/
def placeOf (cwd p : Path) : Place :=
  (cwd.join p).normalize.components.filterMap fun
    | .name n => some n
    | _ => none

/-- The absolute path of a place. -/
def pathOf (place : Place) : String := "/" ++ "/".intercalate (place.map Text.Utf8.lossy)

/-- Adds a file, or a directory with the files directly in it, as far as they are really there. -/
def addReal (place : Place) (d : Disk) : IO Disk := do
  let real := (← IO.currentDir) / pathOf place
  if ← real.isDir then
    let mut d := d.withDirectory place
    for e in ← real.readDir do
      if ← e.path.isDir then d := d.withDirectory (place ++ Place.ofNames [e.fileName])
      else d := d.withFile (place ++ Place.ofNames [e.fileName]) (← IO.FS.readBinFile e.path)
    return d
  else if ← real.pathExists then
    return d.withFile place (← IO.FS.readBinFile real)
  else return d

/-- The path that a failure is about, where the file was not there. -/
def missingPath? (f : Failure) : Option Path :=
  if f.cause.message = OsError.notFound.message then
    f.contexts.findSome? fun
      | .read p => some p
      | _ => none
  else none

/-- Runs a command, adding what it misses. -/
partial def runReal (e : Surroundings) (command : Command) (d : Disk) :
    IO (Result String × Disk × Disk) := do
  let (result, after) := command.run e d
  match result with
  | .ok _ => return (result, d, after)
  | .error f =>
    match missingPath? f with
    | none => return (result, d, after)
    | some p =>
      let place := placeOf e.cwd p
      let more ← addReal place d
      if (more.get? place).isSome && (d.get? place).isNone then runReal e command more
      else return (result, d, after)

/-- Writes the files that a run has changed. -/
def writeReal (before after : Disk) : IO Unit := do
  for (place, contents) in after.files do
    let isOld : Bool := match before.get? place with
      | some (.file old) => old == contents
      | _ => false
    unless isOld do
      IO.FS.createDirAll (pathOf place.dropLast)
      IO.FS.writeBinFile (pathOf place) contents

/-- The directory of the user's settings. -/
def userConfigDir : IO Path := do
  match ← IO.getEnv "XDG_CONFIG_HOME" with
  | some dir => if (Path.ofText dir).isAbsolute then return .ofText dir else homeConfig
  | none => homeConfig
where
  /-- The usual place of the settings. -/
  homeConfig : IO Path := do
    let home ← IO.getEnv "HOME"
    return (Path.ofText (home.getD "/")).entry ".config"

/-- The time. -/
def clock : IO Timestamp := do
  let now ← Std.Time.Timestamp.now
  let nanos := now.toNanosecondsSinceUnixEpoch.val
  return ⟨nanos / 1000000000, (nanos % 1000000000).toNat⟩

/-- Runs a command on the real disk; the code that the program ends with. -/
def runCommand (command : Command) : IO UInt32 := do
  let cwd := Path.ofText (← IO.currentDir).toString
  let e : Surroundings := { cwd, configDir := ← userConfigDir, now := ← clock }
  let buildDir := e.buildDir command.dir
  if command.verbose then IO.eprintln ("build directory " ++ buildDir.text)
  let here := placeOf cwd (.ofText ".")
  let start := { LexicalModel.Command.systemDisk.withDirectory here with cwd := here }
  let model := (buildDir.parent?).getD buildDir
  let roots := [cwd, buildDir, model, model.entry sourceDirName, Config.userPath e.configDir]
  let d ← roots.foldlM (fun d p => addReal (placeOf cwd p) d) start
  let (result, before, after) ← runReal e command d
  writeReal before after
  match result with
  | .ok text =>
    IO.print text
    return 0
  | .error f =>
    IO.eprintln ("error: " ++ f.message)
    return 1

end LexicalModel.CommandLine

open LexicalModel.CommandLine in
/-- The program. -/
def main (args : List String) : IO UInt32 := do
  match Command.parse args with
  | .ok command => runCommand command
  | .error .help =>
    IO.print usage
    return 0
  | .error .version =>
    IO.print versionLine
    return 0
  | .error .missingCommand =>
    IO.eprint usage
    return 2
  | .error e =>
    IO.eprintln ("error: " ++ e.message)
    return 2
