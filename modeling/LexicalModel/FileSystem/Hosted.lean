import LexicalModel.FileSystem.Disk

/-!
# Files beside a disk

Programs run on a disk.  Where files are kept elsewhere, the disk stands beside them.

* `HasDisk` : states with a disk
* `Hosted` : a place where files are kept, and a disk beside it
-/

namespace LexicalModel

/-- A state with a disk. -/
class HasDisk (σ : Type) where
  /-- The disk. -/
  disk : σ → Disk
  /-- Puts another disk in its place. -/
  withDisk : σ → Disk → σ

instance : HasDisk Disk where
  disk d := d
  withDisk _ d := d

/-- A place where files are kept, and a disk beside it. -/
structure Hosted (φ : Type) where
  /-- Where files are kept. -/
  files : φ
  /-- The disk. -/
  disk : Disk

instance {φ : Type} : HasDisk (Hosted φ) where
  disk s := s.disk
  withDisk s disk := { s with disk }

instance {φ : Type} [FileSystem φ] : FileSystem (Hosted φ) where
  read s := FileSystem.read s.files
  listFiles s := FileSystem.listFiles s.files
  fileSize s := FileSystem.fileSize s.files
  isFile s := FileSystem.isFile s.files
  write s p contents :=
    let (result, files) := FileSystem.write s.files p contents
    (result, { s with files })

end LexicalModel
