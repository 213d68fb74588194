import LexicalModel.Proofs.Inputs
import LexicalModel.Proofs.Listing

/-!
# Building again

The files that a build has made are there when the same model is built again, and one of them has
the name of an info file.  None of them is an input: they lie one directory deeper than the info
file that is looked for, and the project of the package has another name.  So the second build reads
what the first one has read, and writes the same once more.

* `Prepared.sameInputs_withManifest` : the artifacts of a build are no inputs of it
* `rebuild_changes_nothing` : the second build ends like the first and changes nothing
-/

namespace LexicalModel

namespace Prepared

variable {r : BuildRequest Store} {s : Store} {p : Prepared} {b : Bundle}

/-- The directory of the model is listed as before the build. -/
theorem listFiles_withManifest (h : (prepare s r).1 = .ok p) :
    FileSystem.listFiles (p.withManifest s r b) p.layout.modelDir =
      FileSystem.listFiles s p.layout.modelDir := by
  obtain ⟨hlayout, hidentity⟩ := concerns h
  obtain ⟨listed, hlisted, -⟩ := ok_of_bind hidentity
  have hwrites : p.withManifest s r b = s.insertAll (p.writes r (.ok b)) := by
    simp only [writes, Store.insertAll_cons, Store.insertAll_nil, withManifest, withPackage,
      withScript]
  rw [hwrites, hlisted]
  refine Store.listFiles_insertAll hlisted fun w hw n => ?_
  simp only [writes, List.mem_cons, List.not_mem_nil, or_false] at hw
  rcases hw with rfl | rfl | rfl <;> dsimp only
  · exact Layout.ne_entry_of_modelDir hlayout (Layout.components_scriptPath _ _) _
  · exact Layout.ne_entry_of_modelDir hlayout (Layout.components_packagePath _ _) _
  · exact Layout.ne_entry_of_modelDir hlayout (Layout.components_manifestPath _ _) _

theorem get?_withManifest {q : Path}
    (h : ∀ q' ∈ [p.scriptPath, p.packagePath, p.manifestPath], q'.components ≠ q.components) :
    (p.withManifest s r b).get? q = s.get? q := by
  simp only [List.forall_mem_cons] at h
  rw [Store.get?_eq_map_file?, Store.get?_eq_map_file?,
    p.file?_withManifest s r b h.1 h.2.1 h.2.2.1]

/-- **The artifacts of a build are no inputs of it**, unless the author's files say so; the package
may list the script. -/
theorem sameInputs_withManifest (hprepare : (prepare s r).1 = .ok p)
    (hscript : ∀ q ∈ r.scriptInputs s p.layout p.identity.id,
      ∀ q' ∈ [p.scriptPath, p.packagePath, p.manifestPath], q'.components ≠ q.components)
    (hpackage : ∀ q ∈ packageInputs s p.layout p.identity.id,
      ∀ q' ∈ [p.packagePath, p.manifestPath], q'.components ≠ q.components) :
    SameInputs r s (p.withManifest s r b) := by
  have hconcerns := concerns hprepare
  have hlayout : ∀ l, Layout.ofBuildDir r.buildDir = .ok l → l = p.layout := fun l hl =>
    Except.ok.inj (hl.symm.trans hconcerns.layout)
  -- a request concerns one model, so there is only one layout and identity to look at
  have hsame : ∀ l i, r.Concerns s l i → l = p.layout ∧ i = p.identity := by
    intro l i h
    obtain rfl := hlayout l h.layout
    exact ⟨rfl, Except.ok.inj (h.identity.symm.trans hconcerns.identity)⟩
  constructor
  case listing =>
    intro l hl
    obtain rfl := hlayout l hl
    exact (listFiles_withManifest hprepare).symm
  case info =>
    intro l i h
    obtain ⟨rfl, rfl⟩ := hsame l i h
    exact (get?_withManifest fun q' hq' => infoPath_ne hprepare hq').symm
  case script =>
    intro l i h q hq
    obtain ⟨rfl, rfl⟩ := hsame l i h
    exact (get?_withManifest (hscript q hq)).symm
  case project =>
    intro l i h
    obtain ⟨rfl, rfl⟩ := hsame l i h
    exact (get?_withManifest fun q' hq' => ne_packageSourcePath hq').symm
  case package =>
    intro l i h q hq hne
    obtain ⟨rfl, rfl⟩ := hsame l i h
    exact (get?_withManifest (List.forall_mem_cons.2 ⟨hne, hpackage q hq⟩)).symm

end Prepared

/-- **Building again changes nothing.**  If no source of the model is a file of the build, and no
file of its package is one but the script, then the same build after a build that succeeded succeeds
with the same outcome and leaves every file as it is. -/
theorem rebuild_changes_nothing {r : BuildRequest Store} {s s' : Store} {o : BuildOutcome}
    {l : Layout} (htools : r.tools.transpiler.IsFunction) (h : build s r = (.ok o, s'))
    (hl : Layout.ofBuildDir r.buildDir = .ok l)
    (hscript : ∀ p ∈ r.scriptInputs s l o.identity.id,
      ∀ q ∈ [o.scriptPath, o.packagePath, o.manifestPath], q.components ≠ p.components)
    (hpackage : ∀ p ∈ packageInputs s l o.identity.id,
      ∀ q ∈ [o.packagePath, o.manifestPath], q.components ≠ p.components) :
    (build s' r).1 = .ok o ∧ ∀ q, (build s' r).2.file? q = s'.file? q := by
  have hkeep := htools.keepsFiles
  have hwrites : s' = s.insertAll (r.writes s) := by
    rw [← build_state s hkeep, h]
  have hinputs : SameInputs r s s' := by
    obtain ⟨p, b, hprepare, -, rfl, rfl⟩ := build_ok h
    obtain rfl : l = p.layout :=
      Except.ok.inj (hl.symm.trans (Prepared.concerns hprepare).layout)
    rw [prepare_state s hkeep]
    dsimp only [Prepared.outcome] at hscript hpackage
    exact Prepared.sameInputs_withManifest hprepare hscript hpackage
  constructor
  · rw [← result_congr hinputs htools, h]
  · intro q
    rw [build_state s' hkeep, ← writes_congr hinputs htools, hwrites]
    exact Store.file?_insertAll_insertAll s (r.writes s) q

theorem rebuild_packaged_script :
    ∃ o s', build scriptStore listingRequest = (.ok o, s') ∧
      (build s' listingRequest).1 = .ok o ∧
      ∀ q, (build s' listingRequest).2.file? q = s'.file? q := by
  obtain ⟨o, s', hend, hidentity, -, hpackage, hmanifest⟩ := build_scriptStore
  have hlayout : Layout.ofBuildDir listingRequest.buildDir = .ok customLayout := by
    rfl
  refine ⟨o, s', hend, rebuild_changes_nothing ⟨_, rfl⟩ hend hlayout ?_ ?_⟩
  · intro p hp
    cases hp
  · rw [hidentity, hpackage, hmanifest, packageInputs_scriptStore]
    decide +kernel

end LexicalModel
