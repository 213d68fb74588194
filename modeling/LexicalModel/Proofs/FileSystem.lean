import LexicalModel.FileSystem.Hosted
import LexicalModel.Proofs.Failure
import LexicalModel.Proofs.Store

/-!
# Files that cannot be read

Where files are kept, in memory or on a disk, a file that cannot be read is no fault of a model: it
is not there, or it is no file, or it is no text.  `OrdinaryFiles` says so of a place where files
are kept, and holds of each that the library has.
-/

namespace LexicalModel

open Result (Ordinary)

/-- A place where files are kept, in which a file that cannot be read is no fault of a model. -/
class OrdinaryFiles (σ : Type) [FileSystem σ] : Prop where
  /-- How reading can fail. -/
  read_ordinary : ∀ (s : σ) (p : Path), Ordinary (FileSystem.read s p)

open OrdinaryFiles (read_ordinary)

instance : OrdinaryFiles Store where
  read_ordinary s p := by
    intro f h
    rw [Store.read_error h]
    rfl

theorem Disk.answer_ordinary {α : Type} (ctx : Context) (x : Except OsError α) :
    Ordinary (Disk.answer ctx x) := by
  cases x with
  | error e => exact errorIs_error rfl
  | ok a => exact errorIs_ok _ a

instance : OrdinaryFiles Disk where
  read_ordinary _ p := Disk.answer_ordinary (.read p) _

instance {φ : Type} [FileSystem φ] [OrdinaryFiles φ] : OrdinaryFiles (Hosted φ) where
  read_ordinary s p := read_ordinary s.files p

theorem readText_ordinary {σ : Type} [FileSystem σ] [OrdinaryFiles σ] (s : σ) (p : Path) :
    Ordinary (FileSystem.readText s p) := by
  refine (read_ordinary s p).bind fun bytes => ?_
  have hcause : ErrorIs (fun e => (Cause.notText e).IsOrdinary) (Text.Utf8.decode bytes) :=
    fun e _ => rfl
  exact (Result.ordinary_ofCause hcause).within _

end LexicalModel
