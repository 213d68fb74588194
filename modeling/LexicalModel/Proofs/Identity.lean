import LexicalModel.Proofs.Failure
import LexicalModel.Proofs.Listing
import LexicalModel.Proofs.Location

/-!
# How a model is identified

A model is identified in four steps: its directory is listed, one info file is selected, its name is
read as an identifier, and the path of the build directory is compared with that.  Each step has a
condition of its own on the files and the path, and a failure tells which step it was.  A file whose
name is no text is not listed, so an info file with such a name is neither selected nor counted.

* `Identifier.parse?_eq_some_iff` : which texts are identifiers
* `Store.HasInfoFile`, `Store.HasInfoText` : the info files of a directory, and those whose names
  are texts
* `Identity.resolve_cases` : the ways in which the identification can end
* `Identity.AgreesOn` : when it succeeds, and what its failures mean, for a notion of info file
* `Identity.resolve_agrees_with_layout` : the info files for which this holds
-/

namespace LexicalModel

open LexicalModel.Path (namesOf)
open Text.Utf8 (IsText bytes)

/-! ### Identifiers as texts -/

namespace Identifier

theorem splitOn_text (id : Identifier) :
    id.text.toList.splitOn '.' = [id.author.toList, id.bcp47.toList, id.uniq.toList] := by
  have hsegment : ∀ {segment : String}, isSegment segment.toList = true →
      ∀ c ∈ segment.toList, (c == '.') = false := by
    intro segment h c hc
    rw [beq_eq_false_iff_ne]
    rintro rfl
    exact Location.dot_not_mem h hc
  rw [text_toList, List.splitOn,
    List.splitOnP_append_cons_of_forall_mem (hsegment id.author_isSegment) _ (by simp),
    List.splitOnP_append_cons_of_forall_mem (hsegment id.bcp47_isSegment) _ (by simp),
    List.splitOnP_eq_singleton (hsegment id.uniq_isSegment)]

theorem text_of_parse? {raw : String} {id : Identifier} (h : parse? raw = some id) :
    id.text = raw := by
  unfold parse? at h
  split at h
  · next a b c hsplit =>
    split_ifs at h
    cases h
    have hjoin : ['.'].intercalate (raw.toList.splitOn '.') = raw.toList :=
      List.intercalate_splitOn '.'
    have hpieces : raw.toList.splitOn '.' = [a, b, c] := hsplit
    rw [← String.toList_inj, text_toList, ← hjoin, hpieces]
    simp [List.intercalate]
  · cases h

theorem parse?_text (id : Identifier) : parse? id.text = some id := by
  have hsplit : id.text.toList.splitOnP (fun c => decide (c = '.')) =
      [id.author.toList, id.bcp47.toList, id.uniq.toList] := splitOn_text id
  unfold parse?
  split
  · next a b c heq =>
    obtain ⟨rfl, rfl, rfl⟩ : id.author.toList = a ∧ id.bcp47.toList = b ∧ id.uniq.toList = c := by
      simpa using hsplit.symm.trans heq
    rw [dif_pos ⟨id.author_isSegment, id.bcp47_isSegment, id.uniq_isSegment⟩]
    simp
  · next hne => exact absurd hsplit (hne _ _ _)

/-- A text is an identifier just where it is that identifier's text. -/
theorem parse?_eq_some_iff {raw : String} {id : Identifier} :
    parse? raw = some id ↔ id.text = raw :=
  ⟨text_of_parse?, fun h => h ▸ parse?_text id⟩

theorem text_injective : Function.Injective text := by
  intro id id' h
  exact Option.some.inj ((parse?_text id).symm.trans (h ▸ parse?_text id'))

/-- The identifiers as texts: three segments with dots between them. -/
theorem exists_text_eq_iff {raw : String} : (∃ id : Identifier, id.text = raw) ↔
    ∃ a b c : String, isSegment a.toList = true ∧ isSegment b.toList = true ∧
      isSegment c.toList = true ∧ raw = a ++ "." ++ b ++ "." ++ c := by
  constructor
  · rintro ⟨⟨a, b, c, ha, hb, hc⟩, rfl⟩
    exact ⟨a, b, c, ha, hb, hc, rfl⟩
  · rintro ⟨a, b, c, ha, hb, hc, rfl⟩
    exact ⟨⟨a, b, c, ha, hb, hc⟩, rfl⟩

end Identifier

/-! ### Info files -/

namespace Store

variable (s : Store) (dir : Path)

/-- There is a file directly in `dir` whose name `n` ends like that of an info file. -/
def HasInfoFile (n : List UInt8) : Prop :=
  dir.components ++ [.name n] ∈ s.files ∧ ∃ stem, n = stem ++ bytes infoSuffix

/-- There is such a file, and its name is a text. -/
def HasInfoText (n : List UInt8) : Prop := s.HasInfoFile dir n ∧ IsText n

end Store

theorem isInfoName_iff {n : String} : isInfoName n = true ↔ ∃ stem, n = stem ++ infoSuffix := by
  rw [isInfoName, List.isSuffixOf_iff_suffix]
  constructor
  · rintro ⟨front, hfront⟩
    refine ⟨String.ofList front, ?_⟩
    rw [← String.toList_inj, String.toList_append, String.toList_ofList, hfront]
  · rintro ⟨stem, rfl⟩
    exact ⟨stem.toList, (String.toList_append ..).symm⟩

theorem Identity.stem_append (raw : String) : stem (raw ++ infoSuffix) = raw := by
  rw [← String.toList_inj, stem, String.toList_ofList, String.toList_append, List.length_append,
    Nat.add_sub_cancel, List.take_left]

theorem Store.mem_filter_isInfoName {s : Store} {dir : Path} {n : String} :
    n ∈ (s.names dir).filter isInfoName ↔ s.HasInfoText dir (bytes n) := by
  rw [List.mem_filter, mem_names_iff, isInfoName_iff, HasInfoText, HasInfoFile,
    and_iff_left (b := IsText (bytes n)) ⟨n, rfl⟩]
  refine and_congr_right fun _ => ⟨?_, ?_⟩
  · rintro ⟨stem, rfl⟩
    exact ⟨bytes stem, Text.Utf8.bytes_append stem infoSuffix⟩
  · rintro ⟨stem, hstem⟩
    obtain ⟨front, hfront⟩ := Text.Utf8.exists_eq_append hstem
    refine ⟨String.ofList front, ?_⟩
    rw [← String.toList_inj, hfront, String.toList_append, String.toList_ofList]

/-- The one info file is selected; without exactly one, the model cannot be found. -/
theorem selectInfoName_cases (s : Store) (dir : Path) :
    (∃ n, (∀ m, s.HasInfoText dir m ↔ m = bytes n) ∧
      selectInfoName dir (s.names dir) = .ok n) ∨
    (¬∃! n, s.HasInfoText dir n) ∧
      ∃ f, selectInfoName dir (s.names dir) = .error f ∧ f.kind = .discovery := by
  have hmem : ∀ m, m ∈ (s.names dir).filter isInfoName ↔ s.HasInfoText dir (bytes m) :=
    fun m => Store.mem_filter_isInfoName
  -- no name is listed twice, so the length of the list counts the files
  have hnodup : ((s.names dir).filter isInfoName).Nodup := (s.nodup_names dir).filter _
  unfold selectInfoName
  split
  · next n hn =>
    rw [hn] at hmem
    refine .inl ⟨n, fun m => ⟨fun hm => ?_, ?_⟩, rfl⟩
    · obtain ⟨t, rfl⟩ := hm.2
      rw [List.mem_singleton.1 ((hmem t).2 hm)]
    · rintro rfl
      exact (hmem n).1 (List.mem_singleton.2 rfl)
  · next hmany =>
    refine .inr ⟨?_, _, rfl, rfl⟩
    rintro ⟨n, hn, hunique⟩
    obtain ⟨t, rfl⟩ := hn.2
    refine hmany t (List.perm_singleton.1 ?_)
    refine (List.perm_ext_iff_of_nodup hnodup (by simp)).2 fun m => ?_
    rw [hmem, List.mem_singleton]
    exact ⟨fun h => Text.Utf8.bytes_injective (hunique _ h), fun h => h ▸ hn⟩

/-! ### The steps together -/

namespace Identity

theorem kind_of_check {p : Path} {id : Identifier} {f : Failure}
    (h : Location.check p id = .error f) : f.kind = .identity := by
  simp only [Location.check] at h
  split at h
  · split_ifs at h
    cases h
    rfl
  · cases h
    rfl

/-- Once the name is known a failure is one of the identity, whether the name is no identifier or
its place is another. -/
theorem parse_check_cases (p : Path) (raw : String) :
    ((∀ id loc, id.text = raw → Location.check p id ≠ .ok loc) ∧
      ∃ f, (do
        let id ← Identifier.parse raw
        let location ← Location.check p id
        return (⟨id, location⟩ : Identity)) = .error f ∧ f.kind = .identity) ∨
    ∃ id loc, id.text = raw ∧ Location.check p id = .ok loc ∧ (do
      let id ← Identifier.parse raw
      let location ← Location.check p id
      return (⟨id, location⟩ : Identity)) = .ok ⟨id, loc⟩ := by
  cases hparse : Identifier.parse? raw with
  | none =>
    refine .inl ⟨fun id loc hid => ?_, _, by rw [Identifier.parse, hparse]; rfl, rfl⟩
    rw [Identifier.parse?_eq_some_iff.2 hid] at hparse
    cases hparse
  | some id =>
    rw [Identifier.parse, hparse]
    cases hcheck : Location.check p id with
    | error f =>
      refine .inl ⟨fun id' loc hid => ?_, f, ?_, kind_of_check hcheck⟩
      · cases (Identifier.parse?_eq_some_iff.2 hid).symm.trans hparse
        rw [hcheck]
        exact fun h => nomatch h
      · rw [ok_bind, hcheck]
        rfl
    | ok loc =>
      refine .inr ⟨id, loc, Identifier.text_of_parse? hparse, hcheck, ?_⟩
      rw [ok_bind, hcheck]
      rfl

/-- **The ways in which an identification can end**, once the directory can be listed. -/
theorem resolve_cases {s : Store} {l : Layout} {listed : List String}
    (hlisted : FileSystem.listFiles s l.modelDir = .ok listed) :
    ((¬∃! n, s.HasInfoText l.modelDir n) ∧
      ∃ f, resolve s l = .error f ∧ f.kind = .discovery) ∨
    (∃ raw, (∀ n, s.HasInfoText l.modelDir n ↔ n = bytes (raw ++ infoSuffix)) ∧
      (∀ id loc, id.text = raw → Location.check l.buildDir id ≠ .ok loc) ∧
      ∃ f, resolve s l = .error f ∧ f.kind = .identity) ∨
    ∃ id loc, (∀ n, s.HasInfoText l.modelDir n ↔ n = bytes (id.text ++ infoSuffix)) ∧
      Location.check l.buildDir id = .ok loc ∧ resolve s l = .ok ⟨id, loc⟩ := by
  rw [resolve, hlisted, ok_bind, Store.eq_names_of_listFiles hlisted]
  rcases selectInfoName_cases s l.modelDir with ⟨n, hn, hselect⟩ | ⟨hcount, f, hselect, hkind⟩
  · right
    have hlisted := Store.mem_filter_isInfoName.2 ((hn _).2 rfl)
    obtain ⟨raw, rfl⟩ := isInfoName_iff.1 (List.mem_filter.1 hlisted).2
    rw [hselect, ok_bind, stem_append]
    rcases parse_check_cases l.buildDir raw with ⟨hrefused, hfails⟩ | ⟨id, loc, rfl, hcheck, hok⟩
    · exact .inl ⟨raw, hn, hrefused, hfails⟩
    · exact .inr ⟨id, loc, hn, hcheck, hok⟩
  · refine .inl ⟨hcount, f, ?_, hkind⟩
    rw [hselect]
    rfl

theorem existsUnique_of_iff {α : Type} {P : α → Prop} {a : α} (h : ∀ b, P b ↔ b = a) :
    ∃! b, P b :=
  ⟨a, (h a).2 rfl, fun b hb => (h b).1 hb⟩

theorem eq_of_iff {P : List UInt8 → Prop} {a b : String}
    (ha : ∀ n, P n ↔ n = bytes (a ++ infoSuffix)) (hb : ∀ n, P n ↔ n = bytes (b ++ infoSuffix)) :
    a = b := by
  have hsuffix := Text.Utf8.bytes_injective ((ha _).1 ((hb _).2 rfl))
  rw [← stem_append a, ← stem_append b, hsuffix]

section Resolve

variable {s : Store} {l : Layout} {listed : List String}

theorem resolve_eq_ok_iff (hlisted : FileSystem.listFiles s l.modelDir = .ok listed)
    {i : Identity} : resolve s l = .ok i ↔
      (∀ n, s.HasInfoText l.modelDir n ↔ n = bytes (i.id.text ++ infoSuffix)) ∧
      Location.check l.buildDir i.id = .ok i.location := by
  rcases resolve_cases hlisted with ⟨hcount, f, hresolve, -⟩ |
    ⟨raw, hraw, hrefused, f, hresolve, -⟩ | ⟨id, loc, hid, hcheck, hresolve⟩
  · rw [hresolve]
    exact iff_of_false (fun h => nomatch h) fun h => hcount (existsUnique_of_iff h.1)
  · rw [hresolve]
    refine iff_of_false (fun h => nomatch h) fun h => ?_
    exact hrefused i.id i.location (eq_of_iff h.1 hraw) h.2
  · rw [hresolve]
    constructor
    · intro h
      cases h
      exact ⟨hid, hcheck⟩
    · rintro ⟨hi, hcheck'⟩
      obtain ⟨id', loc'⟩ := i
      obtain rfl : id' = id := Identifier.text_injective (eq_of_iff hi hid)
      cases hcheck.symm.trans hcheck'
      rfl

/-- A failure tells whether there is exactly one info file. -/
theorem kind_of_resolve (hlisted : FileSystem.listFiles s l.modelDir = .ok listed) {f : Failure}
    (h : resolve s l = .error f) :
    (f.kind = .discovery ↔ ¬∃! n, s.HasInfoText l.modelDir n) ∧
      (f.kind = .identity ↔ ∃! n, s.HasInfoText l.modelDir n) := by
  rcases resolve_cases hlisted with ⟨hcount, g, hresolve, hkind⟩ |
    ⟨raw, hraw, -, g, hresolve, hkind⟩ | ⟨id, loc, -, -, hresolve⟩
  · cases hresolve.symm.trans h
    exact ⟨iff_of_true hkind hcount, iff_of_false (by simp [hkind]) hcount⟩
  · cases hresolve.symm.trans h
    have hone := existsUnique_of_iff hraw
    exact ⟨iff_of_false (by simp [hkind]) (not_not_intro hone), iff_of_true hkind hone⟩
  · cases hresolve.symm.trans h

end Resolve

/-- The texts that some location gives to a model: identifiers that the path spells. -/
theorem exists_check_iff {p : Path} {raw : String} :
    (∃ id loc, id.text = raw ∧ Location.check p id = .ok loc) ↔
      (∃ a b c : String, isSegment a.toList = true ∧ isSegment b.toList = true ∧
        isSegment c.toList = true ∧ raw = a ++ "." ++ b ++ "." ++ c) ∧
      ∃ front group author language,
        namesOf p.components =
          front ++ [group, bytes author, bytes language, bytes buildDirName] ∧
        author ++ "." ++ language = raw := by
  rw [← Identifier.exists_text_eq_iff]
  constructor
  · rintro ⟨id, loc, rfl, hcheck⟩
    obtain ⟨⟨front, group, -, hnames⟩, hspelled⟩ := Location.check_eq_ok_iff.1 hcheck
    exact ⟨⟨id, rfl⟩, front, _, _, _, hnames, hspelled⟩
  · rintro ⟨⟨id, hid⟩, front, group, author, language, hnames, hspelled⟩
    refine ⟨id, ⟨Text.Utf8.lossy group, author, language⟩, hid, ?_⟩
    exact Location.check_eq_ok_iff.2 ⟨⟨front, group, rfl, hnames⟩, hspelled.trans hid.symm⟩

/-- **A model is identified as its layout says**, where these are the info files in its
directory. -/
structure AgreesOn (s : Store) (buildDir : Path) (l : Layout) (IsInfo : List UInt8 → Prop) :
    Prop where
  /-- It is identified by a text exactly if that text names the one info file, is made of three
  segments, and is spelled by the path of the build directory. -/
  identified : ∀ raw : String, (∃ i, resolve s l = .ok i ∧ i.id.text = raw) ↔
    (∀ n, IsInfo n ↔ n = bytes (raw ++ infoSuffix)) ∧
    (∃ a b c : String, isSegment a.toList = true ∧ isSegment b.toList = true ∧
      isSegment c.toList = true ∧ raw = a ++ "." ++ b ++ "." ++ c) ∧
    ∃ front group author language,
      namesOf buildDir.components =
        front ++ [group, bytes author, bytes language, bytes buildDirName] ∧
      author ++ "." ++ language = raw
  /-- The info file that the layout expects is then the one that was found. -/
  found : ∀ i, resolve s l = .ok i →
    i.id.text.toList.splitOn '.' = [i.id.author.toList, i.id.bcp47.toList, i.id.uniq.toList] ∧
    FileSystem.isFile s (l.infoPath i.id) = true ∧
    ∀ n, IsInfo n → (l.infoPath i.id).components = l.modelDir.components ++ [.name n]
  /-- A failure tells whether the file could not be singled out, or does not fit its place. -/
  refused : ∀ f, resolve s l = .error f →
    (f.kind = .discovery ↔ ¬∃! n, IsInfo n) ∧ (f.kind = .identity ↔ ∃! n, IsInfo n)

theorem agreesOn_hasInfoText {s : Store} {l : Layout} {listed : List String}
    (hlisted : FileSystem.listFiles s l.modelDir = .ok listed) :
    AgreesOn s l.buildDir l (s.HasInfoText l.modelDir) where
  identified raw := by
    constructor
    · rintro ⟨i, hi, rfl⟩
      obtain ⟨hinfo, hcheck⟩ := (resolve_eq_ok_iff hlisted).1 hi
      exact ⟨hinfo, exists_check_iff.1 ⟨i.id, i.location, rfl, hcheck⟩⟩
    · rintro ⟨hinfo, hplace⟩
      obtain ⟨id, loc, rfl, hcheck⟩ := exists_check_iff.2 hplace
      exact ⟨⟨id, loc⟩, (resolve_eq_ok_iff hlisted).2 ⟨hinfo, hcheck⟩, rfl⟩
  found i hi := by
    obtain ⟨hinfo, -⟩ := (resolve_eq_ok_iff hlisted).1 hi
    refine ⟨i.id.splitOn_text, Std.TreeMap.contains_iff_mem.2 ?_, fun n hn => ?_⟩
    · rw [Layout.components_infoPath]
      exact ((hinfo _).2 rfl).1.1
    · rw [Layout.components_infoPath, (hinfo n).1 hn]
  refused _ hf := kind_of_resolve hlisted hf

/-- What agrees on one notion of info file agrees on another just where there is exactly one of the
first kind if there is exactly one of the other, which is wider. -/
theorem agreesOn_iff {s : Store} {buildDir : Path} {l : Layout} {P Q : List UInt8 → Prop}
    (h : AgreesOn s buildDir l P) (hsub : ∀ n, P n → Q n) :
    AgreesOn s buildDir l Q ↔ ((∃! n, Q n) ↔ ∃! n, P n) := by
  constructor
  · intro hQ
    cases hresolve : resolve s l with
    | ok i =>
      have hone := ((h.identified _).1 ⟨i, hresolve, rfl⟩).1
      have honeQ := ((hQ.identified _).1 ⟨i, hresolve, rfl⟩).1
      exact iff_of_true (existsUnique_of_iff honeQ) (existsUnique_of_iff hone)
    | error f => exact (hQ.refused f hresolve).2.symm.trans (h.refused f hresolve).2
  · intro hcounts
    by_cases hone : ∃! n, P n
    · -- the one of the wider kind is the one of the other
      have hsame : P = Q := by
        obtain ⟨n, hn, hunique⟩ := hcounts.2 hone
        obtain ⟨m, hm, -⟩ := hone
        funext k
        refine propext ⟨hsub k, fun hk => ?_⟩
        rw [hunique k hk, ← hunique m (hsub m hm)]
        exact hm
      exact hsame ▸ h
    · -- without exactly one of either kind there is only the failure to talk about
      have hnone : ¬∃! n, Q n := fun hQ => hone (hcounts.1 hQ)
      refine ⟨fun raw => iff_of_false ?_ fun hraw => hnone (existsUnique_of_iff hraw.1), ?_, ?_⟩
      · intro hok
        exact hone (existsUnique_of_iff ((h.identified raw).1 hok).1)
      · intro i hi
        exact absurd (existsUnique_of_iff ((h.identified _).1 ⟨i, hi, rfl⟩).1) hone
      · intro f hf
        rw [(h.refused f hf).1, (h.refused f hf).2]
        exact ⟨iff_of_true hone hnone, iff_of_false hone hnone⟩

/-- **A model is identified as its layout says, where the info files are those whose names are
texts.**  It would be the same with all info files exactly if there is one of them where there is
one whose name is a text, and only there. -/
theorem resolve_agrees_with_layout {s : Store} {buildDir : Path} {l : Layout}
    {listed : List String} (hlayout : Layout.ofBuildDir buildDir = .ok l)
    (hlisted : FileSystem.listFiles s l.modelDir = .ok listed) :
    AgreesOn s buildDir l (s.HasInfoText l.modelDir) ∧
    (AgreesOn s buildDir l (s.HasInfoFile l.modelDir) ↔
      ((∃! n, s.HasInfoFile l.modelDir n) ↔ ∃! n, s.HasInfoText l.modelDir n)) := by
  obtain rfl := (Layout.buildDir_components hlayout).1
  have hagrees := agreesOn_hasInfoText hlisted
  exact ⟨hagrees, agreesOn_iff hagrees fun _ hn => hn.1⟩

/-- A model with another info file below its sources. -/
def demoStore : Store :=
  (Store.empty.insert (.ofText "/g/demo/en.sample/demo.en.sample.model_info")
      (Text.Utf8.encode "\x7b\x7d")).insert
    (.ofText "/g/demo/en.sample/source/old.model_info") (Text.Utf8.encode "\x7b\x7d")

/-- The directories of that model, as someone might spell them. -/
def demoLayout : Layout :=
  ⟨.ofText "/g//demo/en.sample/build/", .ofText "/g//demo/en.sample"⟩

theorem resolve_demo :
    resolve demoStore demoLayout =
        .ok ⟨Location.demoIdentifier, ⟨"g", "demo", "en.sample"⟩⟩ ∧
      FileSystem.isFile demoStore (demoLayout.infoPath Location.demoIdentifier) = true := by
  have hlayout : Layout.ofBuildDir (.ofText "/g//demo/en.sample/build/") = .ok demoLayout := by
    rfl
  have hlisted : FileSystem.listFiles demoStore demoLayout.modelDir =
      .ok ["demo.en.sample.model_info"] := by
    decide +kernel
  have hresolve : resolve demoStore demoLayout =
      .ok ⟨Location.demoIdentifier, ⟨"g", "demo", "en.sample"⟩⟩ := by
    rw [resolve, hlisted]
    rfl
  obtain ⟨hagrees, -⟩ := resolve_agrees_with_layout hlayout hlisted
  exact ⟨hresolve, (hagrees.found _ hresolve).2.1⟩

/-- The name of an info file that is no text: no character has the byte it starts with. -/
def untextName : List UInt8 := 0xFF :: bytes infoSuffix

/-- The model with one more info file, whose name is no text. -/
def untextStore : Store :=
  demoStore.insert ⟨bytes "/g/demo/en.sample/" ++ untextName⟩ (Text.Utf8.encode "")

/-- The model is identified although it has two info files. -/
theorem identified_beside_untext :
    Layout.ofBuildDir (.ofText "/g//demo/en.sample/build/") = .ok demoLayout ∧
      (∃ listed, FileSystem.listFiles untextStore demoLayout.modelDir = .ok listed) ∧
      (∃ i, resolve untextStore demoLayout = .ok i ∧ i.id = Location.demoIdentifier) ∧
      (untextStore.HasInfoFile demoLayout.modelDir (bytes "demo.en.sample.model_info") ∧
        untextStore.HasInfoFile demoLayout.modelDir untextName) ∧
      ¬AgreesOn untextStore (.ofText "/g//demo/en.sample/build/") demoLayout
        (untextStore.HasInfoFile demoLayout.modelDir) := by
  have hlisted : FileSystem.listFiles untextStore demoLayout.modelDir =
      .ok ["demo.en.sample.model_info"] := by
    decide +kernel
  have hresolve : resolve untextStore demoLayout =
      .ok ⟨Location.demoIdentifier, ⟨"g", "demo", "en.sample"⟩⟩ := by
    rw [resolve, hlisted]
    rfl
  have htext : untextStore.HasInfoFile demoLayout.modelDir (bytes "demo.en.sample.model_info") :=
    ⟨by decide +kernel, bytes "demo.en.sample", by decide +kernel⟩
  have huntext : untextStore.HasInfoFile demoLayout.modelDir untextName :=
    ⟨by decide +kernel, [0xFF], rfl⟩
  refine ⟨rfl, ⟨_, hlisted⟩, ⟨_, hresolve, rfl⟩, ⟨htext, huntext⟩, fun hagrees => ?_⟩
  have hone := ((hagrees.identified _).1 ⟨_, hresolve, rfl⟩).1
  have hsame := ((hone _).1 htext).trans ((hone _).1 huntext).symm
  exact absurd hsame (by decide +kernel)

end Identity

end LexicalModel
