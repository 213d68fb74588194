import LexicalModel.Failure

/-!
# File systems

What the library asks of a place where files are kept.  Reading leaves the place as it is; writing
gives the place afterwards, also when it fails half-way.
-/

namespace LexicalModel

/-- A place where files are kept. -/
class FileSystem (σ : Type) where
  /-- The contents of a file. -/
  read : σ → Path → Result ByteArray
  /-- The names of the files directly in a directory, sorted, as far as they are texts. -/
  listFiles : σ → Path → Result (List String)
  /-- The size of a file. -/
  fileSize : σ → Path → Result Nat
  /-- Whether there is a file. -/
  isFile : σ → Path → Bool
  /-- Stores contents under a path. -/
  write : σ → Path → ByteArray → Result Unit × σ

namespace FileSystem

variable {σ : Type} [FileSystem σ]

/-- The contents of a file as text. -/
def readText (s : σ) (p : Path) : Result String := do
  let bytes ← read s p
  Result.within (.decode p) (Result.ofCause .notText (Text.Utf8.decode bytes))

end FileSystem

end LexicalModel
