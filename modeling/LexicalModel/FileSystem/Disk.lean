import LexicalModel.FileSystem.Basic
import Std.Data.TreeMap

/-!
# Disks

A disk has directories of its own, and paths are walked: `..` leads to the parent of the directory
reached so far, every directory on the way has to exist, and relative paths start at the working
directory.  Writing a file first creates the directories above it.

* `Disk.walk` : where a path leads
* `Disk.makeDirs` : creating a directory with all that are missing above it
* `Disk.write` : writing a file
-/

namespace LexicalModel

/-- What stands at a place of a disk and is neither a directory nor a file with contents. -/
inductive Special where
  /-- A device that takes everything and gives nothing. -/
  | null
  /-- The channel of that number of whoever opens it. -/
  | channel (number : Nat)
  /-- A program of the machine. -/
  | program (name : String)
  deriving DecidableEq, Repr

/-- What stands at a place of a disk. -/
inductive DiskEntry where
  /-- A directory. -/
  | directory
  /-- A file with its contents. -/
  | file (contents : ByteArray)
  /-- Something else. -/
  | special (what : Special)

/-- A place of a disk: the names on the way from the root. -/
abbrev Place := List (List UInt8)

/-- The place with the given texts as names. -/
def Place.ofNames (names : List String) : Place := names.map Text.Utf8.bytes

/-- A disk and the working directory on it. -/
structure Disk where
  /-- What stands where; the root directory is always there. -/
  entries : Std.TreeMap Place DiskEntry
  /-- The working directory. -/
  cwd : Place

namespace Disk

/-- A disk without entries. -/
def empty : Disk := ⟨.empty, []⟩

/-- What stands at a place. -/
def get? (d : Disk) (place : Place) : Option DiskEntry :=
  if place = [] then some .directory else d.entries[place]?

/-- Whether a directory stands at a place. -/
def isDirectory (d : Disk) (place : Place) : Bool :=
  match d.get? place with
  | some .directory => true
  | _ => false

/-- Puts a file at a place. -/
def putFile (d : Disk) (place : Place) (contents : ByteArray) : Disk :=
  { d with entries := d.entries.insert place (.file contents) }

/-- Puts a directory at a place. -/
def putDirectory (d : Disk) (place : Place) : Disk :=
  { d with entries := d.entries.insert place .directory }

/-- The pieces of a path that are walked one after the other, and the place where the walk
starts. -/
def route (d : Disk) (p : Path) : Place × List (List UInt8) :=
  let pieces := p.spelling.splitOnP (· = slash)
  if p.isAbsolute then ([], pieces.drop 1) else (d.cwd, pieces)

/-- Takes one step from a place, which has to be a directory. -/
def step (d : Disk) (place : Place) (piece : List UInt8) : Except OsError Place :=
  match d.get? place with
  | none => .error .notFound
  | some (.file _) | some (.special _) => .error .notADirectory
  | some .directory =>
    if Path.isIdle piece then .ok place
    else if piece = [dot, dot] then .ok place.dropLast
    else .ok (place ++ [piece])

/-- Walks pieces from a place; what the last one leads to need not exist. -/
def steps (d : Disk) : Place → List (List UInt8) → Except OsError Place
  | place, [] => .ok place
  | place, piece :: rest => do
    let next ← d.step place piece
    d.steps next rest

/-- The place a path leads to; the last name need not exist. -/
def target (d : Disk) (p : Path) : Except OsError Place :=
  if p.spelling = [] then .error .notFound
  else
    let (start, pieces) := d.route p
    d.steps start pieces

/-- The place a path leads to and what stands there. -/
def walk (d : Disk) (p : Path) : Except OsError (Place × DiskEntry) := do
  let place ← d.target p
  match d.get? place with
  | some entry => return (place, entry)
  | none => throw .notFound

/-- An answer of the operating system as a result. -/
def answer {α : Type} (ctx : Context) : Except OsError α → Result α
  | .ok a => .ok a
  | .error e => .error ⟨[ctx], .os e⟩

/-- The contents of a file. -/
def read (d : Disk) (p : Path) : Result ByteArray :=
  answer (.read p) do
    match ← d.walk p with
    | (_, .file contents) => return contents
    | (_, .directory) => throw .isADirectory
    | (_, .special _) => return ByteArray.empty

/-- The size that a directory is reported with. -/
def directorySize : Nat := 4096

/-- The size of a file. -/
def fileSize (d : Disk) (p : Path) : Result Nat :=
  answer (.stat p) do
    match ← d.walk p with
    | (_, .file contents) => return contents.size
    | (_, .directory) => return directorySize
    | (_, .special _) => return 0

/-- Whether there is a file. -/
def isFile (d : Disk) (p : Path) : Bool :=
  match d.walk p with
  | .ok (_, .file _) | .ok (_, .special (.program _)) => true
  | _ => false

/-- The name of a file at a place directly in the directory `dir`. -/
def nameIn (dir : Place) : Place × DiskEntry → Option (List UInt8)
  | (place, .file _) | (place, .special (.program _)) =>
    if place.dropLast = dir then place.getLast? else none
  | (_, .directory) | (_, .special _) => none

/-- The names of the files directly in a directory, sorted, as far as they are texts. -/
def listFiles (d : Disk) (dir : Path) : Result (List String) :=
  answer (.read dir) do
    match ← d.walk dir with
    | (place, .directory) =>
      return (d.entries.toList.filterMap (nameIn place)).filterMap Text.Utf8.text?
    | (_, .file _) | (_, .special _) => throw .notADirectory

/-- Creates one directory, whose parent has to exist. -/
def makeDir (d : Disk) (p : Path) : Except OsError Disk := do
  let place ← d.target p
  match d.get? place with
  | some _ => throw .alreadyExists
  | none => if d.isDirectory place.dropLast then return d.putDirectory place else throw .notFound

/-- Whether a path leads to a directory. -/
def isDir (d : Disk) (p : Path) : Bool :=
  match d.walk p with
  | .ok (_, .directory) => true
  | _ => false

/-- Creates a directory and those missing above it.  `fuel` bounds how many are. -/
def makeDirs : Nat → Disk → Path → Except OsError Unit × Disk
  | 0, d, _ => (.error .notFound, d)
  | fuel + 1, d, p =>
    if p.spelling = [] then (.ok (), d)
    else
      match d.makeDir p with
      | .ok d => (.ok (), d)
      | .error .notFound =>
        match p.parent? with
        | none => (.error .notFound, d)
        | some q =>
          match makeDirs fuel d q with
          | (.error e, d) => (.error e, d)
          | (.ok (), d) =>
            match d.makeDir p with
            | .ok d => (.ok (), d)
            | .error e => if d.isDir p then (.ok (), d) else (.error e, d)
      | .error e => if d.isDir p then (.ok (), d) else (.error e, d)

/-- Moves a finished file to its place: not over a directory, and not to a path whose last piece is
no name. -/
def moveInto (d : Disk) (p : Path) (contents : ByteArray) : Except OsError Disk := do
  let place ← d.target ⟨(p.spelling.reverse.dropWhile (· = slash)).reverse⟩
  let last := (p.spelling.splitOnP (· = slash)).filter (· ≠ []) |>.getLast?
  if last = some [dot] ∨ last = some [dot, dot] ∨ last = none then throw .busy
  if p.spelling.getLast? = some slash then throw .notADirectory
  if d.isDirectory place then throw .isADirectory
  return d.putFile place contents

/-- The directory above a path, the working directory for a lone name. -/
def directoryAbove (p : Path) : Path :=
  match p.parent? with
  | some q => if q.spelling = [] then ⟨[dot]⟩ else q
  | none => ⟨[dot]⟩

/-- Writes a file, after creating the directories above it. -/
def write (d : Disk) (p : Path) (contents : ByteArray) : Result Unit × Disk :=
  let parent := directoryAbove p
  match makeDirs (parent.spelling.length + 2) d parent with
  | (.error e, d) => (.error ⟨[.create parent], .os e⟩, d)
  | (.ok (), d) =>
    match d.moveInto p contents with
    | .error e => (.error ⟨[.write p], .os e⟩, d)
    | .ok d => (.ok (), d)

instance : FileSystem Disk where
  read := read
  listFiles := listFiles
  fileSize := fileSize
  isFile := isFile
  write := write

/-- Puts a directory and all above it at a place. -/
def withDirectory (d : Disk) (place : Place) : Disk :=
  (List.range place.length).foldl (fun d n => d.putDirectory (place.take (n + 1))) d

/-- Puts a file at a place, with the directories above it. -/
def withFile (d : Disk) (place : Place) (contents : ByteArray) : Disk :=
  (d.withDirectory place.dropLast).putFile place contents

/-- The files with their places, in order. -/
def files (d : Disk) : List (Place × ByteArray) :=
  d.entries.toList.filterMap fun
    | (place, .file contents) => some (place, contents)
    | (_, .directory) | (_, .special _) => none

end Disk

end LexicalModel
