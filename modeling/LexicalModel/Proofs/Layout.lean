import LexicalModel.Layout
import LexicalModel.Proofs.Path.Components

/-!
# The files of a model are different files

A build writes three files beside each other.  Their names differ, so that none of them takes the
place of another, and none is the author's own info file, which lies one directory higher.

* `Layout.scriptPath_ne_packagePath` and the like : no two of the files are the same
-/

namespace LexicalModel

theorem isSegment_head {cs : List Char} (h : isSegment cs = true) :
    ∃ c rest, cs = c :: rest ∧ isSegmentStart c = true := by
  cases cs with
  | nil => cases h
  | cons c rest =>
    simp only [isSegment, Bool.and_eq_true] at h
    exact ⟨c, rest, rfl, h.1⟩

theorem isSegmentChar_of_mem {cs : List Char} (h : isSegment cs = true) {c : Char} (hc : c ∈ cs) :
    isSegmentChar c = true := by
  cases cs with
  | nil => cases hc
  | cons d rest =>
    simp only [isSegment, Bool.and_eq_true, List.all_eq_true] at h
    rcases List.mem_cons.1 hc with rfl | hc
    · simp [isSegmentChar, h.1]
    · exact h.2 c hc

namespace Identifier

theorem text_toList (id : Identifier) :
    id.text.toList = id.author.toList ++ '.' :: (id.bcp47.toList ++ '.' :: id.uniq.toList) := by
  have hdot : ".".toList = ['.'] := rfl
  simp only [text, String.toList_append, hdot, List.append_assoc, List.cons_append,
    List.nil_append]

theorem slash_not_mem_text (id : Identifier) : '/' ∉ id.text.toList := by
  have hslash : ∀ cs : List Char, isSegment cs = true → '/' ∉ cs := by
    intro cs h hmem
    exact absurd (isSegmentChar_of_mem h hmem) (by decide)
  rw [text_toList]
  simp [hslash _ id.author_isSegment, hslash _ id.bcp47_isSegment, hslash _ id.uniq_isSegment]

/-- An identifier with some more text without separator is the name of an entry. -/
theorem isEntryName (id : Identifier) {more : String} (h : '/' ∉ more.toList) :
    Path.IsEntryName (id.text ++ more) := by
  obtain ⟨c, rest, hauthor, hc⟩ := isSegment_head id.author_isSegment
  have hdot : c ≠ '.' := by
    rintro rfl
    exact absurd hc (by decide)
  have htext := text_toList id
  rw [hauthor] at htext
  refine ⟨?_, ?_, ?_, ?_⟩
  · simp [htext]
  · rw [String.toList_append, List.mem_append, not_or]
    exact ⟨slash_not_mem_text id, h⟩
  · simp [htext]
  · simp [htext, hdot]

end Identifier

namespace Layout

variable (l : Layout) (id : Identifier)

theorem components_scriptPath :
    (l.scriptPath id).components =
      l.buildDir.components ++ [.name (Text.Utf8.bytes (id.text ++ ".model.js"))] :=
  Path.components_entry _ (id.isEntryName (by decide))

theorem components_packagePath :
    (l.packagePath id).components =
      l.buildDir.components ++ [.name (Text.Utf8.bytes (id.text ++ ".model.kmp"))] :=
  Path.components_entry _ (id.isEntryName (by decide))

theorem components_manifestPath :
    (l.manifestPath id).components =
      l.buildDir.components ++ [.name (Text.Utf8.bytes (id.text ++ infoSuffix))] :=
  Path.components_entry _ (id.isEntryName (by decide))

theorem components_infoPath :
    (l.infoPath id).components =
      l.modelDir.components ++ [.name (Text.Utf8.bytes (id.text ++ infoSuffix))] :=
  Path.components_entry _ (id.isEntryName (by decide))

theorem components_sourceDir :
    l.sourceDir.components = l.modelDir.components ++ [.name (Text.Utf8.bytes sourceDirName)] := by
  have hname : Path.IsEntryName sourceDirName := by
    unfold Path.IsEntryName
    decide
  exact Path.components_entry _ hname

theorem components_packageSourcePath :
    (l.packageSourcePath id).components =
      l.sourceDir.components ++ [.name (Text.Utf8.bytes (id.text ++ ".model.kps"))] :=
  Path.components_entry _ (id.isEntryName (by decide))

/-- The file that a reference in the package project denotes. -/
def packageFile (reference : String) : Path :=
  ((l.packageSourcePath id).parent?.getD (.ofText ".")).resolve reference

/-- A file that the package project lists is looked for where sources are. -/
theorem resolve_packageSourcePath (reference : String) :
    ((l.packageSourcePath id).parent?.getD (.ofText ".")).resolve reference =
      l.sourceFile reference := by
  obtain ⟨q, hparent, hq⟩ := Path.exists_parent?_eq (l.components_packageSourcePath id)
  rw [hparent, Option.getD_some, sourceFile, Path.resolve, Path.resolve, hq]

/-- Entries of directories whose names continue an identifier differently. -/
theorem append_name_ne {cs ds : List Component} {a b : String} (h : a ≠ b) :
    cs ++ [.name (Text.Utf8.bytes (id.text ++ a))] ≠
      ds ++ [.name (Text.Utf8.bytes (id.text ++ b))] := by
  intro he
  have hname := Component.name.inj (List.cons.inj (List.append_inj_right' he rfl)).1
  rw [Text.Utf8.bytes_append, Text.Utf8.bytes_append] at hname
  exact h (Text.Utf8.bytes_injective (List.append_cancel_left hname))

theorem scriptPath_ne_packagePath :
    (l.scriptPath id).components ≠ (l.packagePath id).components := by
  rw [components_scriptPath, components_packagePath]
  exact append_name_ne id (by decide)

theorem scriptPath_ne_manifestPath :
    (l.scriptPath id).components ≠ (l.manifestPath id).components := by
  rw [components_scriptPath, components_manifestPath]
  exact append_name_ne id (by decide)

theorem packagePath_ne_manifestPath :
    (l.packagePath id).components ≠ (l.manifestPath id).components := by
  rw [components_packagePath, components_manifestPath]
  exact append_name_ne id (by decide)

variable {l} in
/-- The directory of the model has one component less than the directory it is built in. -/
theorem buildDir_components {buildDir : Path} (h : ofBuildDir buildDir = .ok l) :
    l.buildDir = buildDir ∧ ∃ c, l.buildDir.components = l.modelDir.components ++ [c] := by
  unfold ofBuildDir at h
  split at h
  · next modelDir hparent =>
    cases h
    exact ⟨rfl, Path.components_of_parent? hparent⟩
  · cases h

variable {l} in
/-- A file in the build directory does not lie directly in the directory of the model. -/
theorem ne_entry_of_modelDir {buildDir : Path} (h : ofBuildDir buildDir = .ok l) {p : Path}
    {c : Component} (hp : p.components = l.buildDir.components ++ [c]) (d : Component) :
    p.components ≠ l.modelDir.components ++ [d] := by
  obtain ⟨e, he⟩ := (buildDir_components h).2
  intro hpd
  have hlength := congrArg List.length hpd
  rw [hp, he] at hlength
  simp at hlength

variable {l id} in
/-- The author's info file is none of the files in the build directory. -/
theorem infoPath_ne {buildDir : Path} (h : ofBuildDir buildDir = .ok l) {p : Path} {c : Component}
    (hp : p.components = l.buildDir.components ++ [c]) :
    p.components ≠ (l.infoPath id).components := by
  rw [components_infoPath]
  exact ne_entry_of_modelDir h hp _

end Layout

end LexicalModel
