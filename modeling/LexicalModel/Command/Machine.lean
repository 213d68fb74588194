import LexicalModel.Command.Raw
import LexicalModel.FileSystem.Disk

/-!
# Machines and processes

Commands run as processes on a machine.  The machine has a disk and channels: pipes, and files that
somebody reads or writes at some place.  A process has arguments, variables, a working directory and
descriptors, which are numbers that lead to channels; two descriptors may lead to the same channel
and then share its place.

A program turns the machine into what it is after the program has ended.

* `Channel`, `Machine` : what processes share
* `Process` : what a process has of its own
* `Program` : what a process does
-/

namespace LexicalModel.Command

/-- How a file is opened. -/
structure Access where
  /-- It is read. -/
  reads : Bool := false
  /-- It is written. -/
  writes : Bool := false
  /-- What is written goes to its end. -/
  appends : Bool := false
  /-- What it holds is dropped. -/
  truncates : Bool := false
  /-- It may not be there yet. -/
  creates : Bool := false

/-- To read a file. -/
def Access.reading : Access := { reads := true }

/-- To write a file from its start. -/
def Access.writing : Access := { writes := true, truncates := true, creates := true }

/-- To write at the end of a file. -/
def Access.appending : Access := { writes := true, appends := true, creates := true }

/-- What a descriptor leads to. -/
inductive Channel where
  /-- Takes everything and gives nothing. -/
  | null
  /-- A pipe: all that was written into it, and how much of that was read. -/
  | pipe (bytes : ByteArray) (taken : Nat)
  /-- A file, and the offset at which it is read or written next. -/
  | file (place : Place) (offset : Nat) (access : Access)

/-- What processes share. -/
structure Machine where
  /-- The disk. -/
  disk : Disk
  /-- The channels. -/
  channels : Array Channel := #[]

/-- Descriptors and the channels they lead to. -/
abbrev Descriptors := List (Nat × Nat)

namespace Machine

/-- Adds a channel, and gives its number. -/
def add (m : Machine) (c : Channel) : Nat × Machine :=
  (m.channels.size, { m with channels := m.channels.push c })

/-- The place that a name leads to from a working directory. -/
def target (m : Machine) (cwd : Place) (name : Raw) : Except OsError Place :=
  { m.disk with cwd }.target ⟨name.map byteOf⟩

/-- What stands where a name leads to. -/
def find (m : Machine) (cwd : Place) (name : Raw) : Except OsError (Place × DiskEntry) :=
  { m.disk with cwd }.walk ⟨name.map byteOf⟩

/-- The contents of the file at a place. -/
def contents (m : Machine) (place : Place) : ByteArray :=
  match m.disk.get? place with
  | some (.file bytes) => bytes
  | _ => ByteArray.empty

/-- Opens a file by name: the number of its channel. -/
def openFile (m : Machine) (cwd : Place) (descriptors : Descriptors) (name : Raw)
    (access : Access) : Except OsError (Nat × Machine) := do
  let place ← m.target cwd name
  match m.disk.get? place with
  | some .directory =>
    if access.writes then throw .isADirectory else return m.add (.file place 0 access)
  | some (.special (.channel n)) =>
    match descriptors.lookup n with
    | none => throw .notFound
    | some i =>
      match m.channels[i]? with
      | some (.file place _ _) =>
        let m := if access.truncates then
          { m with disk := m.disk.putFile place ByteArray.empty } else m
        return m.add (.file place 0 access)
      | _ => return (i, m)
  | some (.special _) => return m.add .null
  | some (.file _) =>
    let m := if access.truncates then
      { m with disk := m.disk.putFile place ByteArray.empty } else m
    return m.add (.file place 0 access)
  | none =>
    if !access.creates then throw .notFound
    return ({ m with disk := m.disk.putFile place ByteArray.empty } : Machine).add
      (.file place 0 access)

/-- Reads up to so many bytes from a channel. -/
def take (m : Machine) (i most : Nat) : Except OsError ByteArray × Machine :=
  match m.channels[i]? with
  | some (.pipe bytes taken) =>
    let stop := min bytes.size (taken + most)
    (.ok (bytes.extract taken stop),
      { m with channels := m.channels.set! i (.pipe bytes stop) })
  | some (.file place offset access) =>
    if !access.reads then (.error .badDescriptor, m)
    else if m.disk.isDirectory place then (.error .isADirectory, m)
    else
      let bytes := m.contents place
      let stop := min bytes.size (offset + most)
      (.ok (bytes.extract offset stop),
        { m with channels := m.channels.set! i (.file place (max offset stop) access) })
  | some .null => (.ok ByteArray.empty, m)
  | none => (.error .badDescriptor, m)

/-- So many bytes are more than any channel holds. -/
def everything : Nat := Nat.pow 2 60

/-- Bytes with others written over them from an offset on. -/
def overwrite (bytes : ByteArray) (offset : Nat) (data : ByteArray) : ByteArray :=
  if offset = bytes.size then bytes ++ data
  else
    let gap := ByteArray.mk (Array.replicate (offset - bytes.size) 0)
    bytes.extract 0 offset ++ gap ++ data ++ bytes.extract (offset + data.size) bytes.size

/-- Writes bytes into a channel. -/
def put (m : Machine) (i : Nat) (data : ByteArray) : Except OsError Unit × Machine :=
  match m.channels[i]? with
  | some (.pipe _ _) =>
    let grow : Channel → Channel
      | .pipe bytes taken => .pipe (bytes ++ data) taken
      | c => c
    (.ok (), { m with channels := m.channels.modify i grow })
  | some (.file place offset access) =>
    if !access.writes then (.error .badDescriptor, m)
    else
      let bytes := m.contents place
      let offset := if access.appends then bytes.size else offset
      (.ok (), { m with
        disk := m.disk.putFile place (overwrite bytes offset data)
        channels := m.channels.set! i (.file place (offset + data.size) access) })
  | some .null => (.ok (), m)
  | none => (.error .badDescriptor, m)

/-- What a pipe holds that nobody has read. -/
def unread (m : Machine) (i : Nat) : ByteArray :=
  match m.channels[i]? with
  | some (.pipe bytes taken) => bytes.extract taken bytes.size
  | _ => ByteArray.empty

/-- The names of what stands directly in a directory, sorted. -/
def names (m : Machine) (dir : Place) : List Raw :=
  m.disk.entries.toList.filterMap fun (place, _) =>
    if place ≠ [] ∧ place.dropLast = dir then place.getLast?.map (·.map charOf) else none

end Machine

/-- What a process has of its own. -/
structure Process where
  /-- The name it was started by. -/
  name : Raw
  /-- The arguments. -/
  args : List Raw
  /-- The variables that are handed on. -/
  environment : List (String × Raw)
  /-- The working directory. -/
  cwd : Place
  /-- The descriptors. -/
  descriptors : Descriptors

/-- A part of what a process does. -/
abbrev Action := StateM Machine

/-- What a process does, and how it ends. -/
abbrev Program := Process → Action ExitStatus

namespace Process

/-- Reads up to so many bytes from a descriptor. -/
def take (p : Process) (descriptor most : Nat) : Action (Except OsError ByteArray) := do
  match p.descriptors.lookup descriptor with
  | none => return .error .badDescriptor
  | some i => modifyGet (·.take i most)

/-- Reads a descriptor to its end. -/
def takeAll (p : Process) (descriptor : Nat) : Action (Except OsError ByteArray) :=
  p.take descriptor Machine.everything

/-- Writes bytes to a descriptor. -/
def put (p : Process) (descriptor : Nat) (data : ByteArray) : Action (Except OsError Unit) := do
  match p.descriptors.lookup descriptor with
  | none => return .error .badDescriptor
  | some i => modifyGet (·.put i data)

/-- Writes to the standard output; what cannot be written is dropped. -/
def out (p : Process) (data : ByteArray) : Action Unit := do
  let _ ← p.put 1 data

/-- Writes to the standard error output. -/
def err (p : Process) (text : Raw) : Action Unit := do
  let _ ← p.put 2 text.toBytes

/-- Complains: a line on the standard error output that starts with the process's name. -/
def complain (p : Process) (text : Raw) : Action Unit :=
  p.err (p.name ++ ": ".toList ++ text ++ ['\n'])

/-- Reads a whole file. -/
def readFile (p : Process) (name : Raw) : Action (Except OsError ByteArray) := do
  match (← get).openFile p.cwd p.descriptors name .reading with
  | .error e => return .error e
  | .ok (i, m) =>
    set m
    modifyGet (·.take i Machine.everything)

end Process

end LexicalModel.Command
