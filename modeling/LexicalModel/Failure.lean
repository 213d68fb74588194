import LexicalModel.Json.Decode
import LexicalModel.Path.Basic

/-!
# Failures

A failure is a cause together with what was being done when it arose, outermost first.  Its message
names all of that in order.  Three kinds of causes are faults of the model itself and carry a kind
of their own: the model cannot be found, it is not what its place says, or its format is not usable.

* `Cause`, `Context` : why something failed, and while doing what
* `Failure.message`, `Failure.kind` : how a failure is reported
-/

namespace LexicalModel

/-- What the operating system answers. -/
inductive OsError where
  /-- There is no such file or directory. -/
  | notFound
  /-- A directory would replace itself or an ancestor. -/
  | busy
  /-- There is a file already. -/
  | alreadyExists
  /-- A file stands where a directory is needed. -/
  | notADirectory
  /-- A directory stands where a file is needed. -/
  | isADirectory
  /-- Nobody reads the other end. -/
  | brokenPipe
  /-- A descriptor leads nowhere, or not in this direction. -/
  | badDescriptor
  /-- It is not allowed. -/
  | denied
  deriving DecidableEq, Repr

/-- The number of an answer. -/
def OsError.number : OsError → Nat
  | notFound => 2
  | badDescriptor => 9
  | denied => 13
  | busy => 16
  | alreadyExists => 17
  | notADirectory => 20
  | isADirectory => 21
  | brokenPipe => 32

/-- The answer in plain words. -/
def OsError.words : OsError → String
  | notFound => "No such file or directory"
  | badDescriptor => "Bad file descriptor"
  | denied => "Permission denied"
  | busy => "Device or resource busy"
  | alreadyExists => "File exists"
  | notADirectory => "Not a directory"
  | isADirectory => "Is a directory"
  | brokenPipe => "Broken pipe"

/-- The answer in words, with its number. -/
def OsError.message (e : OsError) : String := s!"{e.words} (os error {e.number})"

/-- How a command ended that did not succeed. -/
inductive ExitStatus where
  /-- It returned a code. -/
  | code (n : Nat)
  /-- A signal ended it. -/
  | signal (n : Nat)
  deriving DecidableEq, Repr

/-- The names of the signals, from number 1 on. -/
def signalNames : List String :=
  ["HUP", "INT", "QUIT", "ILL", "TRAP", "ABRT", "BUS", "FPE", "KILL", "USR1", "SEGV", "USR2",
   "PIPE", "ALRM", "TERM", "STKFLT", "CHLD", "CONT", "STOP", "TSTP", "TTIN", "TTOU", "URG",
   "XCPU", "XFSZ", "VTALRM", "PROF", "WINCH", "IO", "PWR", "SYS"]

/-- The name of a signal, if it has one. -/
def signalName? (n : Nat) : Option String := if n = 0 then none else signalNames[n - 1]?

/-- The status in words. -/
def ExitStatus.message : ExitStatus → String
  | code n => s!"exit status: {n}"
  | signal n =>
    match signalName? n with
    | some name => s!"signal: {n} (SIG{name})"
    | none => s!"signal: {n}"

/-- Why something failed. -/
inductive Cause where
  /-- Not exactly one model info file in the model's directory. -/
  | infoFileCount (dir : Path) (suffix : String) (found : Nat)
  /-- A text that is no model identifier. -/
  | invalidIdentifier (id : String)
  /-- A build directory that belongs to another model. -/
  | pathMismatch (expected found : String)
  /-- A model format that nobody knows. -/
  | unknownFormat (tag : String)
  /-- A model format that cannot be compiled. -/
  | unimplementedFormat (tag : String)
  /-- A part written by the author that names no class. -/
  | missingRootClass (part : String)
  /-- A directory without parent. -/
  | noParent (dir : Path)
  /-- Not a document, or not of the right shape. -/
  | json (e : Json.ReadError)
  /-- Not a text. -/
  | notText (f : Text.Utf8.Fault)
  /-- The operating system refuses. -/
  | os (e : OsError)
  /-- A store has no such file. -/
  | noSuchFile
  /-- A store has no file below such a directory. -/
  | noSuchDirectory
  /-- A configuration of another version. -/
  | unsupportedSchema (version : Nat)
  /-- A setting that must not be blank. -/
  | blankSetting (name : String)
  /-- An optional setting that must not be blank when it is there. -/
  | blankOptionalSetting (name : String)
  /-- A line of a word list whose count is no number. -/
  | invalidCount (line : Nat) (raw word : String)
  /-- A command line with an open quote. -/
  | openQuote
  /-- A command line without a command. -/
  | emptyCommand
  /-- A command that is not installed. -/
  | unknownProgram
  /-- A command that failed, and what it complained about. -/
  | commandFailed (status : ExitStatus) (complaint : String)
  /-- A transpiler that refuses its source. -/
  | refused (reason : String)
  /-- A package project without root element. -/
  | noPackageElement
  /-- A listed file without name. -/
  | fileWithoutName
  /-- A listed model without identifier. -/
  | modelWithoutId
  /-- A language without identifier. -/
  | languageWithoutId (model : String)
  /-- A package project without models. -/
  | noLexicalModels (project : Path)
  /-- Two files of a package with one name. -/
  | duplicatePackageFile (name : String)
  /-- Two entries of an archive with one name. -/
  | duplicateEntry (name : String)
  deriving DecidableEq, Repr

/-- The cause in words. -/
def Cause.message : Cause → String
  | infoFileCount dir suffix found =>
    s!"info file not found: expected exactly one *{suffix} file in {dir.text}, found {found}"
  | invalidIdentifier id =>
    s!"invalid model identifier '{id}': should be author.bcp47.uniq, each segment matching " ++
      "[a-z_][a-z0-9_]*"
  | pathMismatch expected found =>
    s!"invalid build path: expected '{expected}' from .../<author>/<bcp47>.<uniq>/build, " ++
      s!"found '{found}'"
  | unknownFormat tag => s!"unknown model format '{tag}'"
  | unimplementedFormat tag => s!"unimplemented model format '{tag}'"
  | missingRootClass part => s!"{part} requires rootClass"
  | noParent dir => s!"build directory {dir.text} has no parent"
  | json e => e.message
  | notText f => f.message
  | os e => e.message
  | noSuchFile => "no such file"
  | noSuchDirectory => "no such directory"
  | unsupportedSchema version => s!"unsupported config schema_version {version}"
  | blankSetting name => s!"{name} must not be empty"
  | blankOptionalSetting name => s!"{name} must not be empty when set"
  | invalidCount line raw word => s!"line {line}: invalid count '{raw}' for '{word}'"
  | openQuote => "missing closing quote"
  | emptyCommand => "transpiler command is empty"
  | unknownProgram => "cannot find binary path"
  | commandFailed status complaint => s!"transpiler failed ({status.message}): {complaint}"
  | refused reason => reason
  | noPackageElement => "missing <Package> root element"
  | fileWithoutName => "package <File> entry without <Name>"
  | modelWithoutId => "<LexicalModel> entry without <ID>"
  | languageWithoutId model => s!"<Language> in {model} without ID attribute"
  | noLexicalModels project => s!"package source {project.text} declares no lexical models"
  | duplicatePackageFile name => s!"duplicate package file name {name}"
  | duplicateEntry name => s!"invalid Zip archive: Duplicate filename: {name}"

/-- What was being done. -/
inductive Context where
  /-- Reading a file or directory. -/
  | read (p : Path)
  /-- Asking for the size of a file. -/
  | stat (p : Path)
  /-- Writing a file. -/
  | write (p : Path)
  /-- Creating a directory. -/
  | create (p : Path)
  /-- Reading a file as text. -/
  | decode (p : Path)
  /-- Reading a configuration file. -/
  | readConfig (p : Path)
  /-- Reading the record in a configuration file. -/
  | parseConfig (p : Path)
  /-- Checking the settings of a configuration file. -/
  | validateConfig (p : Path)
  /-- Reading the description of a model. -/
  | parseModelSource (p : Path)
  /-- Reading a source that a model lists. -/
  | readModelSource (reference : String)
  /-- Reading the info of a model. -/
  | parseModelInfo (p : Path)
  /-- Reading a word list. -/
  | parseWordList (p : Path)
  /-- Transpiling a source. -/
  | transpile (p : Path)
  /-- Splitting the command line of a transpiler. -/
  | parseCommand (line : String)
  /-- Looking for the program of a transpiler. -/
  | locateProgram (name : String)
  /-- Handing the source to a transpiler. -/
  | writeInput
  /-- Reading the output of a transpiler as text. -/
  | decodeOutput
  /-- Reading a package project. -/
  | parsePackageSource (p : Path)
  /-- Reading a file that a package lists. -/
  | readPackageFile (reference : String)
  /-- Adding an entry to an archive. -/
  | addToPackage (name : String)
  deriving DecidableEq, Repr

/-- What was being done, in words. -/
def Context.message : Context → String
  | read p => s!"read {p.text}"
  | stat p => s!"stat {p.text}"
  | write p => s!"write {p.text}"
  | create p => s!"create {p.text}"
  | decode p => s!"decode {p.text} as UTF-8"
  | readConfig p => s!"read config {p.text}"
  | parseConfig p => s!"parse config {p.text}"
  | validateConfig p => s!"validate config {p.text}"
  | parseModelSource p => s!"parse model source {p.text}"
  | readModelSource reference => s!"read model source {reference}"
  | parseModelInfo p => s!"parse model info {p.text}"
  | parseWordList p => s!"parse word list {p.text}"
  | transpile p => s!"transpile {p.text}"
  | parseCommand line => s!"parse transpiler command: {line}"
  | locateProgram name => s!"locate transpiler program {name}"
  | writeInput => "write source to transpiler stdin"
  | decodeOutput => "decode transpiler stdout as UTF-8"
  | parsePackageSource p => s!"parse package source {p.text}"
  | readPackageFile reference => s!"read package file {reference}"
  | addToPackage name => s!"add {name} to package"

/-- A cause and what was being done when it arose, outermost first. -/
structure Failure where
  /-- What was being done. -/
  contexts : List Context
  /-- Why it failed. -/
  cause : Cause
  deriving DecidableEq, Repr

/-- The kinds of failures. -/
inductive FailureKind where
  /-- The model cannot be found. -/
  | discovery
  /-- The model is not what its place says. -/
  | identity
  /-- The format of the model is not usable. -/
  | format
  /-- Anything else. -/
  | other
  deriving DecidableEq, Repr

/-- The kind of a cause. -/
def Cause.kind : Cause → FailureKind
  | infoFileCount .. => .discovery
  | invalidIdentifier _ | pathMismatch .. => .identity
  | unknownFormat _ | unimplementedFormat _ | missingRootClass _ => .format
  | _ => .other

namespace Failure

/-- A failure in no particular context. -/
def ofCause (c : Cause) : Failure := ⟨[], c⟩

/-- The same failure while doing something larger. -/
def within (ctx : Context) (f : Failure) : Failure := ⟨ctx :: f.contexts, f.cause⟩

/-- The failure in words, outermost context first. -/
def message (f : Failure) : String :=
  ": ".intercalate (f.contexts.map Context.message ++ [f.cause.message])

/-- The kind of a failure. -/
def kind (f : Failure) : FailureKind := f.cause.kind

end Failure

/-- The result of an operation that may fail. -/
abbrev Result (α : Type) := Except Failure α

namespace Result

/-- Fails for a reason. -/
def fail {α : Type} (c : Cause) : Result α := .error (.ofCause c)

/-- Adds what was being done to a failure. -/
def within {α : Type} (ctx : Context) : Result α → Result α
  | .ok a => .ok a
  | .error f => .error (f.within ctx)

/-- A result whose error is a cause. -/
def ofCause {α ε : Type} (toCause : ε → Cause) : Except ε α → Result α
  | .ok a => .ok a
  | .error e => .error (.ofCause (toCause e))

/-- Goes on from the state after a step where the step has succeeded; the state stays as it is where
it has failed. -/
def andThen {σ α β : Type} (step : Result α × σ) (rest : α → σ → Result β × σ) : Result β × σ :=
  match step with
  | (.ok a, s) => rest a s
  | (.error f, s) => (.error f, s)

end Result

end LexicalModel
