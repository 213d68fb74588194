import LexicalModel.FileSystem.Store

/-!
# What a store answers after a write

A write changes what a store holds under one list of components, and nothing else.  So after several
writes each file holds what was written to it last, and writing all of it once more changes nothing.

* `Store.file?` : the file under a path
* `Store.file?_insert_of_ne` : a write leaves every other file as it is
* `Store.get?_insertAll` : the contents of a file after several writes
* `Store.file?_insertAll_insertAll` : the same writes again change nothing
-/

namespace LexicalModel

namespace Store

/-- The file under a path, with the path as it was spelled first. -/
def file? (s : Store) (p : Path) : Option StoredFile := s.files[p.components]?

theorem get?_eq_map_file? (s : Store) (p : Path) :
    s.get? p = (s.file? p).map StoredFile.contents := rfl

theorem contains_eq_isSome (s : Store) (p : Path) : s.contains p = (s.get? p).isSome := by
  rw [contains, Std.TreeMap.contains_eq_isSome_getElem?, get?, Option.isSome_map]

theorem file?_insert_of_ne (s : Store) {p q : Path} (contents : ByteArray)
    (h : p.components ≠ q.components) : (s.insert p contents).file? q = s.file? q := by
  have hne : compare p.components q.components ≠ .eq := fun he =>
    h (Std.LawfulEqOrd.eq_of_compare he)
  simp only [file?, insert, Std.TreeMap.getElem?_insert, if_neg hne]

@[simp] theorem get?_insert_self (s : Store) (p : Path) (contents : ByteArray) :
    (s.insert p contents).get? p = some contents := by
  simp [get?, insert]

theorem get?_insert_of_ne (s : Store) {p q : Path} (contents : ByteArray)
    (h : p.components ≠ q.components) : (s.insert p contents).get? q = s.get? q := by
  rw [get?_eq_map_file?, get?_eq_map_file?, file?_insert_of_ne s contents h]

theorem file?_congr (s : Store) {p q : Path} (h : p.components = q.components) :
    s.file? p = s.file? q := by
  rw [file?, file?, h]

theorem get?_congr (s : Store) {p q : Path} (h : p.components = q.components) :
    s.get? p = s.get? q := by
  rw [get?_eq_map_file?, get?_eq_map_file?, s.file?_congr h]

theorem file?_insert_self (s : Store) (p : Path) (contents : ByteArray) :
    (s.insert p contents).file? p = some ⟨s.firstSpelling p, contents⟩ :=
  Std.TreeMap.getElem?_insert_self

/-- The first spelling of a path that is there is kept. -/
theorem firstSpelling_of_file? {s : Store} {p : Path} {f : StoredFile} (h : s.file? p = some f) :
    s.firstSpelling p = f.path :=
  congrArg (fun x => (x.map StoredFile.path).getD p) h

/-! ### Several writes -/

/-- Writes contents to paths, one after the other. -/
def insertAll (s : Store) (writes : List (Path × ByteArray)) : Store :=
  writes.foldl (fun s w => s.insert w.1 w.2) s

@[simp] theorem insertAll_nil (s : Store) : s.insertAll [] = s := rfl

@[simp] theorem insertAll_cons (s : Store) (w : Path × ByteArray)
    (writes : List (Path × ByteArray)) :
    s.insertAll (w :: writes) = (s.insert w.1 w.2).insertAll writes := rfl

/-- What is written to a path last. -/
def lastWrite? (writes : List (Path × ByteArray)) (q : Path) : Option ByteArray :=
  (writes.reverse.find? fun w => w.1.same q).map Prod.snd

theorem get?_insert (s : Store) (p q : Path) (contents : ByteArray) :
    (s.insert p contents).get? q = if p.same q then some contents else s.get? q := by
  by_cases h : p.components = q.components
  · rw [← get?_congr _ h, get?_insert_self, if_pos (by simpa [Path.same] using h)]
  · rw [get?_insert_of_ne s contents h, if_neg (by simpa [Path.same] using h)]

/-- **After several writes a file holds what was written to it last.** -/
theorem get?_insertAll (s : Store) (writes : List (Path × ByteArray)) (q : Path) :
    (s.insertAll writes).get? q = (lastWrite? writes q).or (s.get? q) := by
  induction writes generalizing s with
  | nil => rfl
  | cons w writes ih =>
    rw [insertAll_cons, ih, get?_insert]
    simp only [lastWrite?, List.reverse_cons, List.find?_append]
    cases hlater : writes.reverse.find? fun w => w.1.same q with
    | some v => rfl
    | none => by_cases hw : w.1.same q <;> simp [hw]

/-- The spelling of a path that is there stays, whatever is written. -/
theorem path_insertAll {s : Store} {q : Path} {f : StoredFile} (h : s.file? q = some f)
    (writes : List (Path × ByteArray)) :
    ∃ f', (s.insertAll writes).file? q = some f' ∧ f'.path = f.path := by
  induction writes generalizing s f with
  | nil => exact ⟨f, h, rfl⟩
  | cons w writes ih =>
    rw [insertAll_cons]
    by_cases hw : w.1.components = q.components
    · have hfile : s.file? w.1 = some f := (s.file?_congr hw).trans h
      have hwritten := s.file?_insert_self w.1 w.2
      rw [firstSpelling_of_file? hfile, file?_congr _ hw] at hwritten
      exact ih (f := ⟨f.path, w.2⟩) hwritten
    · exact ih ((file?_insert_of_ne s w.2 hw).trans h)

/-- **The same writes again change nothing.** -/
theorem file?_insertAll_insertAll (s : Store) (writes : List (Path × ByteArray)) (q : Path) :
    ((s.insertAll writes).insertAll writes).file? q = (s.insertAll writes).file? q := by
  have hget : ((s.insertAll writes).insertAll writes).get? q = (s.insertAll writes).get? q := by
    rw [get?_insertAll, get?_insertAll]
    cases lastWrite? writes q <;> rfl
  cases hfile : (s.insertAll writes).file? q with
  | none =>
    rw [get?_eq_map_file?, get?_eq_map_file?, hfile] at hget
    exact Option.map_eq_none_iff.1 hget
  | some f =>
    obtain ⟨f', hf', hpath⟩ := path_insertAll hfile writes
    rw [get?_eq_map_file?, get?_eq_map_file?, hfile, hf'] at hget
    obtain ⟨path, contents⟩ := f
    obtain ⟨path', contents'⟩ := f'
    cases hpath
    cases hget
    exact hf'

/-! ### The store as a file system -/

theorem read_congr {s t : Store} {p : Path} (h : s.get? p = t.get? p) :
    FileSystem.read s p = FileSystem.read t p := by
  change s.read p = t.read p
  rw [read, read, h]

theorem readText_congr {s t : Store} {p : Path} (h : s.get? p = t.get? p) :
    FileSystem.readText s p = FileSystem.readText t p := by
  rw [FileSystem.readText, FileSystem.readText, read_congr h]

theorem read_of_get? {s : Store} {p : Path} {contents : ByteArray} (h : s.get? p = some contents) :
    FileSystem.read s p = .ok contents := by
  change s.read p = _
  rw [read, h]

theorem get?_of_read {s : Store} {p : Path} {contents : ByteArray}
    (h : FileSystem.read s p = .ok contents) : s.get? p = some contents := by
  change s.read p = _ at h
  unfold read at h
  split at h
  · next contents' hget => rw [hget, Except.ok.inj h]
  · cases h

theorem fileSize_of_get? {s : Store} {p : Path} {contents : ByteArray}
    (h : s.get? p = some contents) : FileSystem.fileSize s p = .ok contents.size := by
  change s.fileSize p = _
  rw [fileSize, h]

/-- A store refuses to read only what it does not hold. -/
theorem read_error {s : Store} {p : Path} {f : Failure} (h : FileSystem.read s p = .error f) :
    f = ⟨[.read p], .noSuchFile⟩ := by
  change s.read p = _ at h
  unfold read at h
  split at h
  · cases h
  · exact (Except.error.inj h).symm

end Store

end LexicalModel
