import LexicalModel.Package.Descriptor
import LexicalModel.Proofs.Json.Record

/-!
# Package descriptors are read back as they were written

A descriptor holds texts, lists and parts of its own only, so that nothing in it can fail to be read
back.  It opens five levels at most, and each part of it is read back wherever it has that much
room.

* `PackageDescriptor.readsAs_toJson` : a descriptor is read back, whatever it says
-/

namespace LexicalModel

open Json (Reads ReadsAs Value readsAs_text readsAs_list enter_of_le join_map_some)

variable {depth : Nat}

theorem PackageAuthor.readsAs_toJson (h : 2 ≤ depth) (a : PackageAuthor) :
    ReadsAs decoder depth a.toJson a := by
  refine Reads.tuple (?_ : Reads (Draft.step (depth - 1)) {} _
    { name := some a.name, email := a.email.map some }) (enter_of_le h) fun ns hns => ?_
  · refine Reads.cons (Reads.field (fun d x => { d with name := x }) (fun _ => rfl)
      (readsAs_text _ _)) ?_
    exact Reads.optional (fun (d : Draft) x => { d with email := x }) rfl (fun _ => rfl)
      fun b _ => readsAs_text _ b
  · rw [hns, ok_bind]
    simp only [join_map_some]
    rfl

theorem PackageInfo.readsAs_toJson (h : 3 ≤ depth) (i : PackageInfo) :
    ReadsAs decoder depth i.toJson i := by
  refine Reads.tuple (?_ : Reads (Draft.step (depth - 1)) {} _
    { name := i.name.map some, author := i.author.map some, version := i.version.map some,
      copyright := i.copyright.map some, website := i.website.map some,
      description := i.description.map some }) (enter_of_le (by omega)) fun ns hns => ?_
  · simp only [List.append_assoc]
    refine Reads.append (Reads.optional (fun d x => { d with name := x }) rfl (fun _ => rfl)
      fun a _ => readsAs_text _ a) ?_
    refine Reads.append (Reads.optional (fun d x => { d with author := x }) rfl (fun _ => rfl)
      fun a _ => PackageAuthor.readsAs_toJson (by omega) a) ?_
    refine Reads.append (Reads.optional (fun d x => { d with version := x }) rfl (fun _ => rfl)
      fun a _ => readsAs_text _ a) ?_
    refine Reads.append (Reads.optional (fun d x => { d with copyright := x }) rfl (fun _ => rfl)
      fun a _ => readsAs_text _ a) ?_
    refine Reads.append (Reads.optional (fun d x => { d with website := x }) rfl (fun _ => rfl)
      fun a _ => readsAs_text _ a) ?_
    exact Reads.optional (fun (d : Draft) x => { d with description := x }) rfl (fun _ => rfl)
      fun a _ => readsAs_text _ a
  · rw [hns, ok_bind]
    simp only [join_map_some]
    rfl

theorem PackageFile.readsAs_toJson (h : 2 ≤ depth) (f : PackageFile) :
    ReadsAs decoder depth f.toJson f := by
  refine Reads.tuple (?_ : Reads (Draft.step (depth - 1)) {} _
    { name := some f.name, description := some f.description }) (enter_of_le h) fun ns hns => ?_
  · refine Reads.cons (Reads.field (fun d x => { d with name := x }) (fun _ => rfl)
      (readsAs_text _ _)) ?_
    exact Reads.field (fun (d : Draft) x => { d with description := x }) (fun _ => rfl)
      (readsAs_text _ _)
  · rw [hns, ok_bind]
    rfl

theorem PackageLanguage.readsAs_toJson (h : 2 ≤ depth) (l : PackageLanguage) :
    ReadsAs decoder depth l.toJson l := by
  refine Reads.tuple (?_ : Reads (Draft.step (depth - 1)) {} _
    { id := some l.id, name := l.name.map some }) (enter_of_le h) fun ns hns => ?_
  · refine Reads.cons (Reads.field (fun d x => { d with id := x }) (fun _ => rfl)
      (readsAs_text _ _)) ?_
    exact Reads.optional (fun (d : Draft) x => { d with name := x }) rfl (fun _ => rfl)
      fun b _ => readsAs_text _ b
  · rw [hns, ok_bind]
    simp only [join_map_some]
    rfl

theorem PackageModel.readsAs_toJson (h : 4 ≤ depth) (m : PackageModel) :
    ReadsAs decoder depth m.toJson m := by
  have hlanguages := readsAs_list (enter_of_le (by omega : 2 ≤ depth - 1))
    fun l (_ : l ∈ m.languages) => PackageLanguage.readsAs_toJson (by omega) l
  refine Reads.tuple (?_ : Reads (Draft.step (depth - 1)) {} _
    { id := some m.id, name := m.name.map some, languages := some m.languages })
    (enter_of_le (by omega)) fun ns hns => ?_
  · refine Reads.cons (Reads.field (fun d x => { d with id := x }) (fun _ => rfl)
      (readsAs_text _ _)) ?_
    refine Reads.append (Reads.optional (fun d x => { d with name := x }) rfl (fun _ => rfl)
      fun b _ => readsAs_text _ b) ?_
    exact Reads.field (fun (d : Draft) x => { d with languages := x }) (fun _ => rfl) hlanguages
  · rw [hns, ok_bind]
    simp only [join_map_some]
    rfl

namespace PackageDescriptor

theorem readsAs_systemJson (h : 2 ≤ depth) (version : String) :
    ReadsAs systemDecoder depth (systemJson version) version := by
  refine Reads.tuple (?_ : Reads (systemStep (depth - 1)) none _ (some version))
    (enter_of_le h) fun ns hns => ?_
  · exact Reads.field (fun _ x => x) (fun _ => (bind_pure _).symm)
      (readsAs_text (depth - 1) version)
  · rw [hns]
    rfl

/-- **A descriptor is read back, whatever it says.** -/
theorem readsAs_toJson (h : 6 ≤ depth) (d : PackageDescriptor) :
    ReadsAs decoder depth d.toJson d := by
  have hfiles := readsAs_list (enter_of_le (by omega : 2 ≤ depth - 1))
    fun f (_ : f ∈ d.files) => PackageFile.readsAs_toJson (by omega) f
  have hmodels := readsAs_list (enter_of_le (by omega : 2 ≤ depth - 1))
    fun m (_ : m ∈ d.lexicalModels) => PackageModel.readsAs_toJson (by omega) m
  refine Reads.tuple (?_ : Reads (Draft.step (depth - 1)) {} _
    { fileVersion := some d.fileVersion, info := some d.info, files := some d.files,
      lexicalModels := some d.lexicalModels }) (enter_of_le (by omega)) fun ns hns => ?_
  · refine Reads.cons (Reads.field (fun d x => { d with fileVersion := x }) (fun _ => rfl)
      (readsAs_systemJson (by omega) _)) ?_
    refine Reads.cons (Reads.field (fun d x => { d with info := x }) (fun _ => rfl)
      (PackageInfo.readsAs_toJson (by omega) _)) ?_
    refine Reads.cons (Reads.field (fun d x => { d with files := x }) (fun _ => rfl) hfiles) ?_
    exact Reads.field (fun (d : Draft) x => { d with lexicalModels := x }) (fun _ => rfl) hmodels
  · rw [hns, ok_bind]
    rfl

end PackageDescriptor

end LexicalModel
