import LexicalModel.Proofs.Path.Components
import LexicalModel.Proofs.Store
import Mathlib.Data.List.Sort

/-!
# What a store lists

A store lists the files directly in a directory by going through all paths.  Since it holds its
files in the order of their components, the names come in the order of their bytes, and each of them
once; and a text is listed just where the store has a file with one component more than the
directory, whose bytes are that text.  So a directory is listed alike as long as no file directly in
it comes or goes.

* `Store.mem_names_iff` : which names are listed
* `Store.ordered_names` : the names increase
* `Store.listFiles_insertAll` : writes elsewhere do not change what is listed
-/

namespace LexicalModel

/-! ### The order of paths -/

theorem compare_bytes_eq_lt_iff {n m : List UInt8} : Ord.compare n m = .lt ↔ n < m := by
  change List.compareLex Ord.compare n m = .lt ↔ n < m
  induction n generalizing m with
  | nil => cases m <;> simp [List.compareLex]
  | cons a n ih =>
    cases m with
    | nil => simp [List.compareLex]
    | cons b m =>
      rw [List.compareLex_cons_cons, Ordering.then_eq_lt, ih, List.cons_lt_cons_iff,
        Std.LawfulLTCmp.eq_lt_iff_lt, Std.LawfulEqOrd.compare_eq_iff_eq]

theorem Component.compare_name_eq_lt_iff {n m : List UInt8} :
    Ord.compare (Component.name n) (Component.name m) = .lt ↔ n < m :=
  compare_bytes_eq_lt_iff

theorem compare_append_left (cs ds es : List Component) :
    Ord.compare (cs ++ ds) (cs ++ es) = Ord.compare ds es := by
  induction cs with
  | nil => rfl
  | cons c cs ih =>
    change List.compareLex _ (c :: (cs ++ ds)) (c :: (cs ++ es)) = _
    rw [List.compareLex_cons_cons, Std.ReflOrd.compare_self]
    exact ih

/-- Files of one directory are ordered by their names. -/
theorem compare_entries_eq_lt_iff {cs : List Component} {n m : List UInt8} :
    Ord.compare (cs ++ [Component.name n]) (cs ++ [Component.name m]) = .lt ↔ n < m := by
  rw [compare_append_left]
  change List.compareLex _ [Component.name n] [Component.name m] = _ ↔ _
  rw [List.compareLex_cons_cons, ← Component.compare_name_eq_lt_iff, Ordering.then_eq_lt,
    List.compareLex_nil_nil]
  simp

/-- Where a path lies depends on its components alone. -/
theorem Path.startsWith_congr {p q : Path} (h : p.components = q.components) (dir : Path) :
    p.startsWith dir = q.startsWith dir := by
  rw [startsWith, startsWith, h]

namespace Store

open Text.Utf8 (bytes)

variable {s : Store} {dir : Path}

theorem isDirectlyIn_iff {p : Path} {n : List UInt8} (hname : p.fileName? = some n) :
    isDirectlyIn dir p = true ↔ p.components = dir.components ++ [.name n] := by
  obtain ⟨cs, hcs⟩ := Path.fileName?_eq_some_iff.1 hname
  obtain ⟨q, hparent, hq⟩ := Path.exists_parent?_eq hcs
  simp only [isDirectlyIn, hparent, Path.same, decide_eq_true_eq, hq, hcs]
  constructor
  · rintro rfl
    rfl
  · exact fun h => List.append_inj_left' h rfl

/-! ### The paths of a store -/

theorem mem_files_of_mem_paths {p : Path} (h : p ∈ s.paths) : p.components ∈ s.files := by
  obtain ⟨f, hf, rfl⟩ := List.mem_map.1 h
  obtain ⟨⟨cs, f⟩, hmem, rfl⟩ := List.mem_map.1 hf
  have hget := Std.TreeMap.mem_toList_iff_getElem?_eq_some.1 hmem
  rw [s.components_path cs f hget, Std.TreeMap.mem_iff_isSome_getElem?, hget]
  rfl

theorem path_mem_paths {cs : List Component} {f : StoredFile} (h : s.files[cs]? = some f) :
    f.path ∈ s.paths := by
  refine List.mem_map_of_mem (List.mem_map.2 ⟨(cs, f), ?_, rfl⟩)
  exact Std.TreeMap.mem_toList_iff_getElem?_eq_some.2 h

theorem exists_mem_paths {cs : List Component} (h : cs ∈ s.files) :
    ∃ p ∈ s.paths, p.components = cs := by
  rw [Std.TreeMap.mem_iff_isSome_getElem?] at h
  obtain ⟨f, hf⟩ := Option.isSome_iff_exists.1 h
  exact ⟨f.path, path_mem_paths hf, s.components_path cs f hf⟩

/-- The paths of a store increase. -/
theorem ordered_paths (s : Store) :
    s.paths.Pairwise fun p q => compare p.components q.components = .lt := by
  rw [paths, toList, List.map_map, List.pairwise_map]
  refine List.Pairwise.imp_of_mem ?_ s.files.ordered_keys_toList
  rintro ⟨cs, f⟩ ⟨ds, g⟩ hf hg hlt
  have hcs := s.components_path cs f (Std.TreeMap.mem_toList_iff_getElem?_eq_some.1 hf)
  have hds := s.components_path ds g (Std.TreeMap.mem_toList_iff_getElem?_eq_some.1 hg)
  simpa [hcs, hds] using hlt

/-! ### The names in a directory -/

/-- The names of the files directly in a directory, as far as they are texts. -/
def names (s : Store) (dir : Path) : List String :=
  (s.paths.filter (isDirectlyIn dir)).filterMap Path.fileText?

theorem eq_names_of_listFiles {listed : List String}
    (h : FileSystem.listFiles s dir = .ok listed) : listed = s.names dir := by
  change s.listFiles dir = _ at h
  unfold listFiles at h
  split at h
  · exact (Except.ok.inj h).symm
  · cases h

/-- **A name is listed where there is such a file in the directory.** -/
theorem mem_names_iff {n : String} :
    n ∈ s.names dir ↔ dir.components ++ [.name (bytes n)] ∈ s.files := by
  rw [names, List.mem_filterMap]
  constructor
  · rintro ⟨p, hp, hname⟩
    obtain ⟨hpath, hdir⟩ := List.mem_filter.1 hp
    rw [← (isDirectlyIn_iff (Path.fileText?_eq_some_iff.1 hname)).1 hdir]
    exact mem_files_of_mem_paths hpath
  · intro h
    obtain ⟨p, hpath, hp⟩ := exists_mem_paths h
    have hname := Path.fileName?_eq_some_iff.2 ⟨_, hp⟩
    exact ⟨p, List.mem_filter.2 ⟨hpath, (isDirectlyIn_iff hname).2 hp⟩,
      Path.fileText?_eq_some_iff.2 hname⟩

/-- **The names in a directory increase.** -/
theorem ordered_names (s : Store) (dir : Path) :
    (s.names dir).Pairwise fun n m => bytes n < bytes m := by
  have hpaths : (s.paths.filter (isDirectlyIn dir)).Pairwise fun p q =>
      compare p.components q.components = .lt ∧
        isDirectlyIn dir p = true ∧ isDirectlyIn dir q = true := by
    refine (s.ordered_paths.filter _).imp_of_mem fun hp hq hlt => ⟨hlt, ?_, ?_⟩
    · exact (List.mem_filter.1 hp).2
    · exact (List.mem_filter.1 hq).2
  refine List.Pairwise.filterMap _ ?_ hpaths
  rintro p q ⟨hlt, hp, hq⟩ n hn m hm
  rw [(isDirectlyIn_iff (Path.fileText?_eq_some_iff.1 hn)).1 hp,
    (isDirectlyIn_iff (Path.fileText?_eq_some_iff.1 hm)).1 hq] at hlt
  exact compare_entries_eq_lt_iff.1 hlt

theorem nodup_names (s : Store) (dir : Path) : (s.names dir).Nodup :=
  List.Nodup.of_map bytes (List.pairwise_map.2 (s.ordered_names dir)).nodup

/-! ### Writes elsewhere -/

theorem mem_files_insertAll {cs : List Component} (h : cs ∈ s.files)
    (writes : List (Path × ByteArray)) : cs ∈ (s.insertAll writes).files := by
  induction writes generalizing s with
  | nil => exact h
  | cons w writes ih => exact ih (Std.TreeMap.mem_insert.2 (.inr h))

theorem mem_files_insertAll_iff {cs : List Component} {writes : List (Path × ByteArray)}
    (h : ∀ w ∈ writes, w.1.components ≠ cs) : cs ∈ (s.insertAll writes).files ↔ cs ∈ s.files := by
  induction writes generalizing s with
  | nil => exact Iff.rfl
  | cons w writes ih =>
    obtain ⟨hw, hwrites⟩ := List.forall_mem_cons.1 h
    rw [insertAll_cons, ih hwrites]
    refine Std.TreeMap.mem_insert.trans (or_iff_right fun he => ?_)
    exact hw (Std.LawfulEqOrd.eq_of_compare he)

/-- **Writes elsewhere do not change what is listed** of a directory that can be listed. -/
theorem listFiles_insertAll {listed : List String} {writes : List (Path × ByteArray)}
    (hlisted : FileSystem.listFiles s dir = .ok listed)
    (h : ∀ w ∈ writes, ∀ n, w.1.components ≠ dir.components ++ [.name n]) :
    FileSystem.listFiles (s.insertAll writes) dir = .ok listed := by
  have hnames : (s.insertAll writes).names dir = s.names dir := by
    refine List.map_injective_iff.2 Text.Utf8.bytes_injective ?_
    refine (List.pairwise_map.2 (ordered_names _ dir)).eq_of_mem_iff
      (List.pairwise_map.2 (s.ordered_names dir)) fun n => ?_
    simp only [List.mem_map, mem_names_iff, mem_files_insertAll_iff fun w hw => h w hw _]
  -- a file below the directory is still there
  have hbelow : (s.insertAll writes).paths.any (fun p => p.startsWith dir) = true := by
    change s.listFiles dir = _ at hlisted
    unfold listFiles at hlisted
    split at hlisted
    · next hany =>
      obtain ⟨p, hp, hstarts⟩ := List.any_eq_true.1 hany
      obtain ⟨q, hq, hpq⟩ :=
        exists_mem_paths (mem_files_insertAll (mem_files_of_mem_paths hp) writes)
      exact List.any_eq_true.2 ⟨q, hq, (Path.startsWith_congr hpq dir).trans hstarts⟩
    · cases hlisted
  rw [eq_names_of_listFiles hlisted, ← hnames]
  change (s.insertAll writes).listFiles dir = _
  rw [listFiles, if_pos hbelow]
  rfl

end Store

end LexicalModel
