import LexicalModel.Proofs.Listing
import LexicalModel.Proofs.Path.Normal

/-!
# What a store remembers

A store starts without files, and operations put contents under paths, one after the other.  What it
answers later depends on the operations alone: for a path only those count that were on a path with
the same components.  The last of them gives the contents, the first the spelling.  The names that
are listed in a directory come in the order of their bytes, although it is whole paths that are held
in order, and they are the names under which there is a file.

* `Store.Operation`, `Store.after` : operations, and the store after them
* `Store.operationsOn` : the operations on a path
* `Store.get?_after`, `Store.path_after` : what is held under a path
* `Store.filter_paths` : a path that is held is listed once
* `Store.history_remembered` : what a store answers after any operations
-/

namespace LexicalModel

open Text.Utf8 (bytes)

/-! ### The order of components -/

/-- The root comes before `.`, that before `..`, and that before names; names are in the order of
their bytes. -/
inductive Component.Precedes : Component → Component → Prop
  /-- Components of different kinds. -/
  | kind {a b : Component} : a.rank < b.rank → a.Precedes b
  /-- Names. -/
  | name {n m : List UInt8} : n < m → Precedes (.name n) (.name m)

theorem Component.precedes_of_compare {a b : Component} (h : Ord.compare a b = .lt) :
    a.Precedes b := by
  have hkeys : (compareOn rank a b).then (compareOn label a b) = .lt := h
  rw [Ordering.then_eq_lt] at hkeys
  rcases hkeys with hrank | ⟨hrank, -⟩
  · exact .kind (Nat.compare_eq_lt.1 hrank)
  · -- only names differ from others of their kind
    have hkind : a.rank = b.rank := Nat.compare_eq_eq.1 hrank
    cases a <;> cases b <;> simp [rank] at hkind
    case name.name n m => exact .name (compare_name_eq_lt_iff.1 h)
    all_goals exact absurd h (by decide)

/-- Paths are compared component by component. -/
theorem lex_precedes_of_compare {cs ds : List Component} (h : Ord.compare cs ds = .lt) :
    List.Lex Component.Precedes cs ds := by
  change List.compareLex Ord.compare cs ds = .lt at h
  induction cs generalizing ds with
  | nil =>
    cases ds with
    | nil => cases h
    | cons d ds => exact .nil
  | cons c cs ih =>
    cases ds with
    | nil => cases h
    | cons d ds =>
      rw [List.compareLex_cons_cons, Ordering.then_eq_lt] at h
      rcases h with hlt | ⟨heq, hrest⟩
      · exact .rel (Component.precedes_of_compare hlt)
      · rw [Std.LawfulEqOrd.eq_of_compare heq]
        exact .cons (ih hrest)

namespace Store

/-! ### Operations -/

/-- What is done to a store. -/
inductive Operation where
  /-- Contents are put under a path. -/
  | insert (path : Path) (contents : ByteArray)
  /-- Contents are written to a path, as to any place where files are kept. -/
  | write (path : Path) (contents : ByteArray)

namespace Operation

/-- The path that an operation is on. -/
def path : Operation → Path
  | insert p _ => p
  | write p _ => p

/-- The contents that are put there. -/
def contents : Operation → ByteArray
  | insert _ contents => contents
  | write _ contents => contents

end Operation

/-- The store after an operation. -/
def apply (s : Store) : Operation → Store
  | .insert p contents => s.insert p contents
  | .write p contents => (FileSystem.write s p contents).2

/-- The store after operations, which starts without files. -/
def after (ops : List Operation) : Store := ops.foldl apply empty

/-- The operations on a path, however they spell it. -/
def operationsOn (ops : List Operation) (p : Path) : List Operation :=
  ops.filter fun op => op.path.same p

theorem apply_eq_insert (s : Store) (op : Operation) :
    s.apply op = s.insert op.path op.contents := by
  cases op <;> rfl

theorem after_concat (ops : List Operation) (op : Operation) :
    after (ops ++ [op]) = (after ops).insert op.path op.contents := by
  rw [after, List.foldl_append, ← apply_eq_insert]
  rfl

theorem operationsOn_concat_of_same {op : Operation} {p : Path} (h : op.path.same p = true)
    (ops : List Operation) : operationsOn (ops ++ [op]) p = operationsOn ops p ++ [op] := by
  simp [operationsOn, h]

theorem operationsOn_concat_of_ne {op : Operation} {p : Path} (h : op.path.same p = false)
    (ops : List Operation) : operationsOn (ops ++ [op]) p = operationsOn ops p := by
  simp [operationsOn, h]

/-! ### What is held under a path -/

/-- **The last operation on a path gives the contents.** -/
theorem get?_after (ops : List Operation) (p : Path) :
    (after ops).get? p = (operationsOn ops p).getLast?.map Operation.contents := by
  induction ops using List.reverseRecOn with
  | nil => rfl
  | append_singleton ops op ih =>
    rw [after_concat, get?_insert]
    cases hsame : op.path.same p with
    | true => simp [operationsOn_concat_of_same hsame]
    | false => simpa [operationsOn_concat_of_ne hsame] using ih

theorem path_insert_of_same {p q : Path} (h : p.same q = true) (s : Store) (contents : ByteArray) :
    ((s.insert p contents).file? q).map StoredFile.path =
      some (((s.file? q).map StoredFile.path).getD p) := by
  have hpq : p.components = q.components := by simpa [Path.same] using h
  rw [← file?_congr _ hpq, ← file?_congr _ hpq, file?_insert_self]
  rfl

/-- **The first operation on a path gives the spelling.** -/
theorem path_after (ops : List Operation) (p : Path) :
    ((after ops).file? p).map StoredFile.path = (operationsOn ops p).head?.map Operation.path := by
  induction ops using List.reverseRecOn with
  | nil => rfl
  | append_singleton ops op ih =>
    rw [after_concat]
    cases hsame : op.path.same p with
    | true =>
      rw [path_insert_of_same hsame, ih, operationsOn_concat_of_same hsame, List.head?_append]
      cases (operationsOn ops p).head? <;> rfl
    | false =>
      have hne : op.path.components ≠ p.components := by simpa [Path.same] using hsame
      rw [file?_insert_of_ne _ _ hne, ih, operationsOn_concat_of_ne hsame]

theorem contains_after (ops : List Operation) (p : Path) :
    (after ops).contains p = !(operationsOn ops p).isEmpty := by
  rw [contains_eq_isSome, get?_after, Option.isSome_map, Bool.eq_iff_iff, List.getLast?_isSome]
  simp

theorem mem_files_after_iff {ops : List Operation} {p : Path} :
    p.components ∈ (after ops).files ↔ ∃ op ∈ ops, op.path.components = p.components := by
  rw [Std.TreeMap.mem_iff_contains]
  change (after ops).contains p = true ↔ _
  rw [contains_after]
  simp [operationsOn, Path.same]

theorem toOption_read (s : Store) (p : Path) : (FileSystem.read s p).toOption = s.get? p := by
  change (s.read p).toOption = _
  unfold read
  split
  · next h => exact h.symm
  · next h => exact h.symm

theorem toOption_fileSize (s : Store) (p : Path) :
    (FileSystem.fileSize s p).toOption = (s.get? p).map ByteArray.size := by
  change (s.fileSize p).toOption = _
  unfold fileSize
  split
  · next h => rw [h]; rfl
  · next h => rw [h]; rfl

/-! ### What is listed -/

theorem eq_singleton_of_ordered {ps : List Path} {cs : List Component} {p : Path} (hp : p ∈ ps)
    (hsame : ∀ q ∈ ps, q.components = cs)
    (hordered : ps.Pairwise fun p q => compare p.components q.components = .lt) : ps = [p] := by
  cases ps with
  | nil => cases hp
  | cons q ps =>
    cases ps with
    | nil => rw [List.mem_singleton.1 hp]
    | cons r ps =>
      -- the first two would be the same and in order
      have hlt := (List.pairwise_cons.1 hordered).1 r List.mem_cons_self
      rw [hsame q List.mem_cons_self, hsame r (by simp), Std.ReflOrd.compare_self] at hlt
      cases hlt

/-- **A path that is held is listed once**, as it was spelled first. -/
theorem filter_paths (s : Store) (p : Path) :
    (s.paths.filter fun q => q.same p) = ((s.file? p).map StoredFile.path).toList := by
  have hsame : ∀ q ∈ s.paths.filter (fun q => q.same p), q.components = p.components := by
    intro q hq
    simpa [Path.same] using (List.mem_filter.1 hq).2
  cases hfile : s.file? p with
  | none =>
    refine List.eq_nil_iff_forall_not_mem.2 fun q hq => ?_
    have hmem := mem_files_of_mem_paths (List.mem_filter.1 hq).1
    rw [hsame q hq, Std.TreeMap.mem_iff_isSome_getElem?] at hmem
    have hnone : s.files[p.components]? = none := hfile
    rw [hnone] at hmem
    cases hmem
  | some f =>
    -- paths are in strict order, so no two with the same components are listed
    have hcomponents : f.path.components = p.components := s.components_path _ _ hfile
    have hmem : f.path ∈ s.paths.filter fun q => q.same p :=
      List.mem_filter.2 ⟨path_mem_paths hfile, by simpa [Path.same] using hcomponents⟩
    exact eq_singleton_of_ordered hmem hsame (s.ordered_paths.filter _)

theorem isName_of_mem_names {s : Store} {dir : Path} {n : String} (h : n ∈ s.names dir) :
    Path.IsName (bytes n) := by
  obtain ⟨p, -, hname⟩ := List.mem_filterMap.1 h
  exact Path.isName_of_fileName? (Path.fileText?_eq_some_iff.1 hname)

/-- **What is listed are the names under which there is a file in the directory.** -/
theorem mem_names_iff_isFile {s : Store} {dir : Path} {n : String} :
    n ∈ s.names dir ↔
      (Path.ofText n).components = [.name (bytes n)] ∧
        FileSystem.isFile s (dir.join (.ofText n)) = true := by
  rw [Path.ofText, Path.components_eq_name_iff]
  have hfile : Path.IsName (bytes n) →
      (n ∈ s.names dir ↔ FileSystem.isFile s (dir.join ⟨bytes n⟩) = true) := by
    intro hname
    have hcomponents : (dir.join ⟨bytes n⟩).components = dir.components ++ [.name (bytes n)] :=
      dir.components_entry (Path.isName_bytes.1 hname)
    change _ ↔ s.contains (dir.join ⟨bytes n⟩) = true
    rw [mem_names_iff, contains, hcomponents, Std.TreeMap.mem_iff_contains]
  constructor
  · intro h
    have hname := isName_of_mem_names h
    exact ⟨hname, (hfile hname).1 h⟩
  · rintro ⟨hname, h⟩
    exact (hfile hname).2 h

theorem exists_listFiles_iff {s : Store} {dir : Path} :
    (∃ names, FileSystem.listFiles s dir = .ok names) ↔ ∃ p ∈ s.paths, p.startsWith dir = true := by
  change (∃ names, s.listFiles dir = .ok names) ↔ _
  rw [← List.any_eq_true]
  unfold listFiles
  split_ifs with hany
  · exact iff_of_true ⟨_, rfl⟩ hany
  · exact iff_of_false (by simp) hany

/-- A directory has files below it just where there was an operation on a path below it. -/
theorem exists_below_after {ops : List Operation} {dir : Path} :
    (∃ p ∈ (after ops).paths, p.startsWith dir = true) ↔
      ∃ op ∈ ops, op.path.startsWith dir = true := by
  constructor
  · rintro ⟨p, hp, hstarts⟩
    obtain ⟨op, hop, hcomponents⟩ := mem_files_after_iff.1 (mem_files_of_mem_paths hp)
    exact ⟨op, hop, (Path.startsWith_congr hcomponents dir).trans hstarts⟩
  · rintro ⟨op, hop, hstarts⟩
    obtain ⟨p, hp, hcomponents⟩ := exists_mem_paths (mem_files_after_iff.2 ⟨op, hop, rfl⟩)
    exact ⟨p, hp, (Path.startsWith_congr hcomponents dir).trans hstarts⟩

/-! ### After any operations -/

/-- A store answers as the operations on it say. -/
structure Remembers (ops : List Operation) (s : Store) : Prop where
  /-- A file has the contents that it was given last; none is read where there was no operation. -/
  read : ∀ p, (FileSystem.read s p).toOption =
    (operationsOn ops p).getLast?.map Operation.contents
  /-- Its size is theirs. -/
  size : ∀ p, (FileSystem.fileSize s p).toOption =
    (operationsOn ops p).getLast?.map fun op => op.contents.size
  /-- There is a file just where there was an operation. -/
  isFile : ∀ p, FileSystem.isFile s p = !(operationsOn ops p).isEmpty
  /-- So it is held. -/
  contains : ∀ p, s.contains p = !(operationsOn ops p).isEmpty
  /-- Each path that there was an operation on is listed once, as it was spelled first. -/
  paths : ∀ p, (s.paths.filter fun q => q.same p) =
    ((operationsOn ops p).head?.map Operation.path).toList
  /-- Paths are listed in the order of their components. -/
  ordered : s.paths.Pairwise fun p q => List.Lex Component.Precedes p.components q.components
  /-- A directory can be listed just where there was an operation on a path below it. -/
  directories : ∀ dir, (∃ names, FileSystem.listFiles s dir = .ok names) ↔
    ∃ op ∈ ops, op.path.startsWith dir = true
  /-- The names in a directory are in the order of their bytes, each comes once, and they are those
  of one component under which there is a file. -/
  names : ∀ dir names, FileSystem.listFiles s dir = .ok names →
    (names.Pairwise fun n m => bytes n < bytes m) ∧ names.Nodup ∧
    ∀ n, n ∈ names ↔
      (Path.ofText n).components = [.name (bytes n)] ∧
        FileSystem.isFile s (dir.join (.ofText n)) = true

theorem remembers_after (ops : List Operation) : Remembers ops (after ops) where
  read p := by rw [toOption_read, get?_after]
  size p := by rw [toOption_fileSize, get?_after, Option.map_map]; rfl
  isFile := contains_after ops
  contains := contains_after ops
  paths p := by rw [filter_paths, path_after]
  ordered := (after ops).ordered_paths.imp lex_precedes_of_compare
  directories dir := exists_listFiles_iff.trans exists_below_after
  names dir names h := by
    rw [eq_names_of_listFiles h]
    exact ⟨(after ops).ordered_names dir, nodup_names _ dir, fun n => mem_names_iff_isFile⟩

/-- Two stores answer alike about a path. -/
structure AnswersAlike (s t : Store) (p : Path) : Prop where
  read : FileSystem.read s p = FileSystem.read t p
  size : FileSystem.fileSize s p = FileSystem.fileSize t p
  isFile : FileSystem.isFile s p = FileSystem.isFile t p
  contains : s.contains p = t.contains p

theorem answersAlike_of_get? {s t : Store} {p : Path} (h : s.get? p = t.get? p) :
    AnswersAlike s t p := by
  have hcontains : s.contains p = t.contains p := by
    rw [contains_eq_isSome, contains_eq_isSome, h]
  refine ⟨read_congr h, ?_, hcontains, hcontains⟩
  change s.fileSize p = t.fileSize p
  rw [fileSize, fileSize, h]

/-- **A store remembers.**  After any operations it answers as they say: a file has the contents
that it was given last, each path is listed once and in order, and the names in a directory are
those under which there is a file, in the order of their bytes.  One more operation changes no
answer about another path. -/
theorem history_remembered (ops : List Operation) :
    Remembers ops (after ops) ∧
    ∀ (op : Operation) (p : Path), op.path.components ≠ p.components →
      AnswersAlike (after (ops ++ [op])) (after ops) p := by
  refine ⟨remembers_after ops, fun op p hne => answersAlike_of_get? ?_⟩
  rw [after_concat, get?_insert_of_ne _ _ hne]

/-- Two spellings of one path, and files in and below the directory of it. -/
def spelledTwice : List Operation :=
  [.insert (.ofText "/m//b") (Text.Utf8.encode "first"),
    .write (.ofText "/m/d/e") (Text.Utf8.encode "deep"),
    .write (.ofText "/m/./b/") (Text.Utf8.encode "last!!"),
    .insert (.ofText "/m/Z") (Text.Utf8.encode "")]

/-- A path with `..` in it has other components than its normal form, and is another file. -/
theorem spelledTwice_remembered :
    (FileSystem.read (after spelledTwice) (.ofText "//m/b/.")).toOption =
        some (Text.Utf8.encode "last!!") ∧
      (FileSystem.read (after spelledTwice) (.ofText "/m/d")).toOption = none ∧
      ((after spelledTwice).paths.filter fun q => q.same (.ofText "/m/b")) = [(.ofText "/m//b")] ∧
      ∃ names, FileSystem.listFiles (after spelledTwice) (.ofText "/m/") = .ok names ∧
        "b" ∈ names ∧ "d" ∉ names ∧
        AnswersAlike (after (spelledTwice ++ [.write (.ofText "/m/../m/b") (Text.Utf8.encode "")]))
          (after spelledTwice) (.ofText "/m/b") := by
  obtain ⟨hremembers, hothers⟩ := history_remembered spelledTwice
  obtain ⟨names, hnames⟩ := (hremembers.directories (.ofText "/m/")).2
    ⟨.insert (.ofText "/m//b") (Text.Utf8.encode "first"), List.mem_cons_self, by decide⟩
  obtain ⟨-, -, hlisted⟩ := hremembers.names _ _ hnames
  refine ⟨hremembers.read _, hremembers.read _, hremembers.paths _, names, hnames, ?_, ?_, ?_⟩
  · rw [hlisted, hremembers.isFile]
    decide
  · rw [hlisted, hremembers.isFile]
    decide
  · exact hothers _ _ (by decide)

end Store

end LexicalModel
