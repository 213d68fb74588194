import LexicalModel.Build
import LexicalModel.Command.Toolbox
import LexicalModel.CommandLine.Arguments

/-!
# Running commands

A command runs against a file system; what it says is a text.

* `Surroundings` : what a command finds when it starts
* `Command.run` : runs a command
-/

namespace LexicalModel.CommandLine

/-- What a command finds when it starts. -/
structure Surroundings where
  /-- The working directory. -/
  cwd : Path
  /-- The directory of the user's settings. -/
  configDir : Path
  /-- The time. -/
  now : Timestamp

/-- The build directory that is meant: the working directory where none is given, and from there
where it is relative. -/
def Surroundings.buildDir (e : Surroundings) : Option Path → Path
  | none => e.cwd
  | some dir => if dir.isAbsolute then dir else (e.cwd.join dir).normalize

variable {σ : Type} [FileSystem σ] [HasDisk σ]

/-- The transpiler of the settings; a command line given as argument comes first. -/
def chooseTranspiler (s : σ) (argument : Option String) (config : Config) :
    Result (Transpiler σ) :=
  match argument.or config.transpiler with
  | some line => Transpiler.ofCommand s line
  | none => .ok .passThrough

/-- What is to be built for the given options. -/
def buildRequest (e : Surroundings) (s : σ) (dir source config : Option Path)
    (transpiler : Option String) : Result (BuildRequest σ) := do
  let buildDir := e.buildDir dir
  let layout ← Layout.ofBuildDir buildDir
  let settings ← Config.resolve s config layout.projectConfigPath (some e.configDir)
  let transpiler ← chooseTranspiler s transpiler settings
  return {
    buildDir
    input := match source with
      | some p => .file p
      | none => .layout
    config := settings
    now := e.now
    tools := { transpiler, trieBuilder := Trie.literal Trie.defaultMaxLeaf }
    archive := Archive.zip }

/-- Says what a build wrote. -/
def report (e : Surroundings) (o : BuildOutcome) : String :=
  String.join ([o.scriptPath, o.packagePath, o.manifestPath].map fun p =>
    "wrote " ++ p.display (some e.cwd) ++ "\n")

/-- Runs a command: what it says, and the file system afterwards. -/
def Command.run (e : Surroundings) (s : σ) : Command → Result String × σ
  | .build dir source config transpiler _ =>
    match buildRequest e s dir source config transpiler with
    | .error f => (.error f, s)
    | .ok request =>
      let (outcome, s) := LexicalModel.build s request
      (outcome.map (report e), s)
  | .identify dir json _ =>
    let identity := do
      let layout ← Layout.ofBuildDir (e.buildDir dir)
      Identity.resolve s layout
    let say (i : Identity) : String :=
      if json then i.toJson.pretty ++ "\n"
      else i.id.text ++ " (" ++ i.location.sourcePath ++ ")\n"
    (identity.map say, s)

end LexicalModel.CommandLine
