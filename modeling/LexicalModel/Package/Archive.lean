import LexicalModel.Failure

/-!
# Archives

A package is a sequence of named contents.  It is written as a zip archive whose entries are stored
as they are, or as a plain listing that can be read by eye.  No two entries have the same name.

* `Archiver` : a way to archive entries
* `Archive.check` : whether entries can be put into one archive
* `Archive.zip` : entries as a zip archive
* `Archive.listing` : entries one after the other
-/

namespace LexicalModel

/-- An entry of an archive. -/
structure ArchiveEntry where
  /-- Its name. -/
  name : String
  /-- Its contents. -/
  bytes : ByteArray

/-- A way to archive entries, which may refuse them. -/
abbrev Archiver := List ArchiveEntry → Result ByteArray

namespace Archive

/-- Refuses the first entry whose name was taken before. -/
def checkFrom (taken : List String) : List ArchiveEntry → Result Unit
  | [] => .ok ()
  | e :: es =>
    if e.name ∈ taken then .error ⟨[.addToPackage e.name], .duplicateEntry e.name⟩
    else checkFrom (e.name :: taken) es

/-- Whether entries can be put into one archive. -/
def check (entries : List ArchiveEntry) : Result Unit := checkFrom [] entries

/-- Entries in some form, if they can be put into one archive. -/
def archiveAs (form : List ArchiveEntry → ByteArray) : Archiver := fun entries => do
  check entries
  return form entries

/-! ### Zip archives -/

/-- The lowest bytes of a number, the lowest first. -/
def littleEndian : Nat → Nat → List UInt8
  | 0, _ => []
  | size + 1, n => UInt8.ofNat (n % 256) :: littleEndian size (n / 256)

/-- Shifts one bit out of a checksum. -/
def checksumShift (c : UInt32) : UInt32 :=
  if c &&& 1 = 1 then (c >>> 1) ^^^ 0xEDB88320 else c >>> 1

/-- Adds a byte to a checksum. -/
def checksumByte (c : UInt32) (b : UInt8) : UInt32 :=
  Nat.repeat checksumShift 8 (c ^^^ b.toUInt32)

/-- The checksum of the contents of an entry. -/
def checksum (bytes : ByteArray) : UInt32 :=
  bytes.foldl checksumByte 0xFFFFFFFF ^^^ 0xFFFFFFFF

/-- What the header of an entry and its record in the directory have in common: versions, flags, no
compression, the first day of the calendar, checksum, sizes and the length of the name. -/
def sharedFields (e : ArchiveEntry) : List UInt8 :=
  littleEndian 2 20 ++ littleEndian 2 0x0800 ++ littleEndian 2 0 ++ littleEndian 2 0 ++
    littleEndian 2 0x21 ++ littleEndian 4 (checksum e.bytes).toNat ++
    littleEndian 4 e.bytes.size ++ littleEndian 4 e.bytes.size ++
    littleEndian 2 e.name.utf8ByteSize ++ littleEndian 2 0

/-- The signature of an entry. -/
def entrySignature : List UInt8 := [0x50, 0x4B, 3, 4]

/-- An entry with its header. -/
def localEntry (e : ArchiveEntry) : ByteArray :=
  ⟨(entrySignature ++ sharedFields e).toArray⟩ ++ Text.Utf8.encode e.name ++ e.bytes

/-- The record of an entry that starts at the given offset. -/
def directoryRecord (offset : Nat) (e : ArchiveEntry) : ByteArray :=
  ⟨([0x50, 0x4B, 1, 2] ++ littleEndian 2 20 ++ sharedFields e ++ littleEndian 2 0 ++
    littleEndian 2 0 ++ littleEndian 2 0 ++ littleEndian 4 0 ++ littleEndian 4 offset).toArray⟩ ++
    Text.Utf8.encode e.name

/-- Entries with their headers, and the directory of those that start at the given offset. -/
def zipParts (offset : Nat) : List ArchiveEntry → ByteArray × ByteArray
  | [] => (.empty, .empty)
  | e :: es =>
    let entry := localEntry e
    let (bodies, directory) := zipParts (offset + entry.size) es
    (entry ++ bodies, directoryRecord offset e ++ directory)

/-- The bytes of a zip archive. -/
def zipBytes (entries : List ArchiveEntry) : ByteArray :=
  let (bodies, directory) := zipParts 0 entries
  bodies ++ directory ++
    ⟨([0x50, 0x4B, 5, 6] ++ littleEndian 4 0 ++ littleEndian 2 entries.length ++
      littleEndian 2 entries.length ++ littleEndian 4 directory.size ++
      littleEndian 4 bodies.size ++ littleEndian 2 0).toArray⟩

/-- Entries as a zip archive. -/
def zip : Archiver := archiveAs zipBytes

/-! ### Listings -/

/-- An entry in a listing: its name, its size, its contents, each with a line end. -/
def listingEntry (e : ArchiveEntry) : ByteArray :=
  Text.Utf8.encode (e.name ++ "\n" ++ String.ofList (Json.decimalChars e.bytes.size) ++ "\n") ++
    e.bytes ++ Text.Utf8.encode "\n"

/-- The bytes of a listing. -/
def listingBytes (entries : List ArchiveEntry) : ByteArray :=
  entries.foldl (fun acc e => acc ++ listingEntry e) .empty

/-- Entries one after the other. -/
def listing : Archiver := archiveAs listingBytes

end Archive

end LexicalModel
