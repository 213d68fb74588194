import LexicalModel.FileSystem.Basic
import Std.Data.TreeMap

/-!
# Stores

A store keeps files in memory.  Two paths are the same file when they have the same components; the
store remembers how a file's path was spelled first.  There are no directories of their own: a
directory exists when some file lies below it.
-/

namespace LexicalModel

/-- A file of a store. -/
structure StoredFile where
  /-- The path as it was spelled first. -/
  path : Path
  /-- The contents. -/
  contents : ByteArray

/-- Files in memory, by the components of their paths. -/
structure Store where
  /-- The files. -/
  files : Std.TreeMap (List Component) StoredFile
  components_path : ∀ (cs : List Component) (f : StoredFile), files[cs]? = some f →
    f.path.components = cs

namespace Store

/-- A store without files. -/
def empty : Store := ⟨.empty, fun _ _ h => by simp at h⟩

/-- The contents of a file, if there is one. -/
def get? (s : Store) (p : Path) : Option ByteArray :=
  s.files[p.components]?.map StoredFile.contents

/-- Whether there is such a file. -/
def contains (s : Store) (p : Path) : Bool := s.files.contains p.components

/-- The path as it was spelled first. -/
def firstSpelling (s : Store) (p : Path) : Path :=
  (s.files[p.components]?.map StoredFile.path).getD p

theorem components_firstSpelling (s : Store) (p : Path) :
    (s.firstSpelling p).components = p.components := by
  unfold firstSpelling
  cases h : s.files[p.components]? with
  | none => rfl
  | some f => exact s.components_path _ _ h

/-- Stores contents under a path; the first spelling of the path is kept. -/
def insert (s : Store) (p : Path) (contents : ByteArray) : Store where
  files := s.files.insert p.components ⟨s.firstSpelling p, contents⟩
  components_path cs f h := by
    rw [Std.TreeMap.getElem?_insert] at h
    split at h
    · next hcs =>
      cases h
      exact (s.components_firstSpelling p).trans (Std.LawfulEqOrd.eq_of_compare hcs)
    · exact s.components_path cs f h

/-- The files in the order of their paths. -/
def toList (s : Store) : List StoredFile := s.files.toList.map Prod.snd

/-- The paths in order. -/
def paths (s : Store) : List Path := s.toList.map StoredFile.path

/-- The contents of a file. -/
def read (s : Store) (p : Path) : Result ByteArray :=
  match s.get? p with
  | some bytes => .ok bytes
  | none => .error ⟨[.read p], .noSuchFile⟩

/-- The size of a file. -/
def fileSize (s : Store) (p : Path) : Result Nat :=
  match s.get? p with
  | some bytes => .ok bytes.size
  | none => .error ⟨[.stat p], .noSuchFile⟩

/-- The file lies directly in the directory. -/
def isDirectlyIn (dir p : Path) : Bool :=
  match p.parent? with
  | some q => q.same dir
  | none => false

/-- The names of the files directly in a directory, which has to have files below it.  A file whose
name is no text is passed over. -/
def listFiles (s : Store) (dir : Path) : Result (List String) :=
  if s.paths.any (fun p => p.startsWith dir) then
    .ok ((s.paths.filter (isDirectlyIn dir)).filterMap Path.fileText?)
  else .error ⟨[.read dir], .noSuchDirectory⟩

instance : FileSystem Store where
  read := read
  listFiles := listFiles
  fileSize := fileSize
  isFile := contains
  write s p contents := (.ok (), s.insert p contents)

end Store

end LexicalModel
