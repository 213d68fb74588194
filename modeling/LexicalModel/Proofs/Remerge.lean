import LexicalModel.Proofs.Manifest
import Mathlib.Logic.Function.Iterate

/-!
# Merging once more

A manifest is a model info itself, and may be merged once more with the facts of a later build.
Then everything that it says stays, as what an author says does.  A field that is still blank is
filled in if the later build has something for it; with the facts of the same build it has not, so
that nothing changes at all.

* `fill_fill` : a field that was filled in is not filled in again
* `ModelInfo.field_merge_merge` : what a second merge with the same facts does to a text field
* `ModelInfo.merge_merge` : it changes nothing
* `ModelInfo.merge_settles` : what a second merge keeps and what it determines
-/

namespace LexicalModel

/-- Filling in the same candidates again changes nothing: a field that is still blank has none but
blank candidates. -/
theorem fill_fill (field : Option String) (candidates : List (Option String)) :
    fill (fill field candidates) candidates = fill field candidates := by
  by_cases hblank : IsBlankField (fill field candidates)
  · refine fill_of_blank_candidates hblank fun c hc => ?_
    by_contra hcandidate
    exact not_isBlankField_fill ⟨c, hc, hcandidate⟩ hblank
  · exact fill_of_not_blank hblank

/-- The manifest plays a part among the candidates by its name only. -/
theorem BuildFacts.candidates_congr (f : BuildFacts) {m m' : ModelInfo} (h : m.name = m'.name)
    (t : TextField) : f.candidates m t = f.candidates m' t := by
  cases t with
  | description => exact congrArg (fun name => [f.package.info.description, name]) h
  | _ => rfl

namespace ModelInfo

variable (info : ModelInfo) (f g : BuildFacts)

theorem ext_of_fields {m m' : ModelInfo} (htext : ∀ t, m.field t = m'.field t)
    (hlanguages : m.languages = m'.languages) (hpackage : m.packageFileSize = m'.packageFileSize)
    (hscript : m.jsFileSize = m'.jsFileSize) (hincludes : m.packageIncludes = m'.packageIncludes)
    (hextra : m.extra = m'.extra) : m = m' := by
  cases m
  cases m'
  simp only [ModelInfo.mk.injEq]
  exact ⟨htext .id, htext .name, htext .license, htext .version, hlanguages, htext .authorName,
    htext .authorEmail, htext .description, htext .lastModifiedDate, htext .packageFilename,
    hpackage, htext .jsFilename, hscript, hincludes, htext .minKeymanVersion, htext .sourcePath,
    hextra⟩

theorem name_merge_merge : ((info.merge f).merge g).name = (info.merge f).name :=
  kept_merge (info.merge f) (t := .name) (not_isBlankField_name_merge info f)

/-- The languages of a manifest are never missing, so a second merge has none to fill in. -/
theorem languages_merge_merge :
    ((info.merge f).merge g).languages = (info.merge f).languages := by
  obtain ⟨languages, hlanguages, hne⟩ := speaks_merge info f
  rw [languages_merge, hlanguages, Option.getD_some, if_neg hne]

/-- A mail address that is still blank after a merge: the package has none, and the author's own is
kept as it is. -/
theorem authorEmail_merge_merge :
    ((info.merge f).merge f).authorEmail = (info.merge f).authorEmail := by
  by_cases hblank : IsBlankField (info.merge f).authorEmail
  · -- had the package an address, that or the author's own would stand there now
    have hpackage : IsBlankField (f.package.info.author.bind PackageAuthor.email) := by
      by_contra hpackage
      have hinfo : IsBlankField info.authorEmail := by
        by_contra hinfo
        have hkept : (info.merge f).authorEmail = info.authorEmail :=
          kept_merge info (t := .authorEmail) hinfo
        exact hinfo (hkept ▸ hblank)
      exact hpackage ((email_merge info hinfo).1 hpackage ▸ hblank)
    rw [(email_merge (info.merge f) hblank).2 hpackage, authorEmail_merge]
    cases fill info.authorEmail (f.candidates (info.merge f) .authorEmail) <;> rfl
  · exact kept_merge (info.merge f) (t := .authorEmail) hblank

theorem field_merge_merge (t : TextField) :
    ((info.merge f).merge f).field t = (info.merge f).field t := by
  by_cases ht : t = .authorEmail
  · subst ht
    exact authorEmail_merge_merge info f
  · rw [field_merge (info.merge f) f ht, f.candidates_congr (name_merge_merge info f f),
      field_merge info f ht]
    exact fill_fill _ _

/-- **Merging with the same facts again changes nothing.** -/
theorem merge_merge : (info.merge f).merge f = info.merge f :=
  ext_of_fields (field_merge_merge info f) (languages_merge_merge info f f) rfl rfl rfl rfl

/-- **A merge settles what it fills in.**  Whatever the facts of a second merge are, no text that is
not blank, no language and no unknown member of the manifest changes; sizes and what the package
includes are those of the second merge alone.  With the same facts nothing changes, however often
they are merged. -/
theorem merge_settles :
    (∀ t, ¬IsBlankField ((info.merge f).field t) →
      ((info.merge f).merge g).field t = (info.merge f).field t) ∧
    ((info.merge f).merge g).languages = (info.merge f).languages ∧
    ((info.merge f).merge g).extra = (info.merge f).extra ∧
    ((info.merge f).merge g).packageFileSize = some g.packageFileSize ∧
    ((info.merge f).merge g).jsFileSize = some g.jsFileSize ∧
    ((info.merge f).merge g).packageIncludes =
      some (LexicalModel.packageIncludes (g.package.files.map PackageFile.name)) ∧
    (info.merge f).merge f = info.merge f ∧
    ∀ n, (Nat.iterate (fun m : ModelInfo => m.merge f) n (info.merge f)).render =
      (info.merge f).render := by
  refine ⟨fun t ht => kept_merge (info.merge f) ht, languages_merge_merge info f g, rfl, rfl, rfl,
    rfl, merge_merge info f, fun n => ?_⟩
  rw [Function.iterate_fixed (merge_merge info f) n]

/-- A record of an author who leaves the license and the languages empty. -/
def unlicensedInfo : ModelInfo := { license := some "", languages := some [] }

/-- The facts of a build whose settings have a blank license, and of a package that says nothing. -/
def unlicensedFacts : BuildFacts where
  id := Location.demoIdentifier
  location := ⟨"g", "demo", "en.sample"⟩
  package := {}
  packageFileSize := 1
  jsFileSize := 2
  now := ⟨0, 0⟩
  config := { defaultLicense := " " }

/-- The facts of a later build with a license, and of a package with a version and a font. -/
def licensedFacts : BuildFacts :=
  { unlicensedFacts with
    package := { info := { version := some "3" }, files := [⟨"a.TTF", ""⟩] }
    packageFileSize := 7
    config := {} }

/-- The license stays blank as long as the settings have none.  The later build fills it in, but it
does not change the version. -/
theorem merge_settles_blank_license :
    (unlicensedInfo.merge unlicensedFacts).license = some "" ∧
      (unlicensedInfo.merge unlicensedFacts).merge unlicensedFacts =
        unlicensedInfo.merge unlicensedFacts ∧
      ((unlicensedInfo.merge unlicensedFacts).merge licensedFacts).license = some "mit" ∧
      ((unlicensedInfo.merge unlicensedFacts).merge licensedFacts).field .version = some "1.0" ∧
      ((unlicensedInfo.merge unlicensedFacts).merge licensedFacts).packageFileSize = some 7 ∧
      ((unlicensedInfo.merge unlicensedFacts).merge licensedFacts).packageIncludes =
        some ["fonts"] := by
  obtain ⟨hkept, -, -, hsize, -, hincludes, hsame, -⟩ :=
    merge_settles unlicensedInfo unlicensedFacts licensedFacts
  have hversion : (unlicensedInfo.merge unlicensedFacts).field .version = some "1.0" := by
    decide +kernel
  have hsettled : ¬IsBlankField ((unlicensedInfo.merge unlicensedFacts).field .version) := by
    rw [hversion]
    exact isBlankField_some.not.2 (by decide)
  refine ⟨by decide +kernel, hsame, by decide +kernel, ?_, hsize, ?_⟩
  · rw [hkept .version hsettled, hversion]
  · rw [hincludes]
    decide +kernel

end ModelInfo

end LexicalModel
