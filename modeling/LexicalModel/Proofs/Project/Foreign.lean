import LexicalModel.Proofs.Markup.Content
import LexicalModel.Proofs.Project.Reading

/-!
# What else stands in a package

Between the sections of a package other contents may stand that the library has no use for.  The
sections are looked for by their names, wherever these stand in the package, and the package ends
with the first tag that closes it.  So foreign contents are ignored unless they hold such a tag.

* `Encloses` : the texts that render a project around given contents
* `Ignorable` : contents without the tags of what follows them
* `PackageProject.parse_encloses` : when foreign contents change nothing
-/

namespace LexicalModel

open Markup

/-! ### Sections in front of the contents and after them -/

namespace Markup.Tree

/-- The name of an element. -/
def tag? : Tree → Option String
  | .text _ => none
  | .element tag _ _ => some tag

theorem hasTag_iff {tree : Tree} {tag : String} :
    tree.hasTag tag = true ↔ tree.tag? = some tag := by
  cases tree <;> simp [hasTag, tag?]

variable {front back : List Tree} {names : List String} {name : String} {tree : Tree}

theorem exists_hasTag_iff (h : back.map tag? = names.map some) :
    (∃ tree ∈ back, tree.hasTag name = true) ↔ name ∈ names := by
  have hmem : some name ∈ back.map tag? ↔ some name ∈ names.map some := by rw [h]
  simpa [hasTag_iff] using hmem

/-- An element that is named among the later ones stands there. -/
theorem filter_of_mem (h : back.map tag? = names.map some)
    (hfilter : (front ++ back).filter (hasTag name) = [tree]) (hname : name ∈ names) :
    front.filter (hasTag name) = [] ∧ back.filter (hasTag name) = [tree] := by
  obtain ⟨other, hother, htag⟩ := (exists_hasTag_iff h).2 hname
  have hne : back.filter (hasTag name) ≠ [] :=
    List.ne_nil_of_mem (List.mem_filter.2 ⟨hother, htag⟩)
  rw [List.filter_append] at hfilter
  rcases List.append_eq_singleton_iff.1 hfilter with hsplit | hsplit
  · exact hsplit
  · exact absurd hsplit.2 hne

theorem filter_of_not_mem (h : back.map tag? = names.map some)
    (hfilter : (front ++ back).filter (hasTag name) = [tree]) (hname : name ∉ names) :
    front.filter (hasTag name) = [tree] := by
  have hnil : back.filter (hasTag name) = [] := by
    refine List.filter_eq_nil_iff.2 fun other hother htag => hname ?_
    exact (exists_hasTag_iff h).1 ⟨other, hother, htag⟩
  rwa [List.filter_append, hnil, List.append_nil] at hfilter

end Markup.Tree

/-- The names of the sections. -/
def sectionTags : List String := ["Info", "Files", "LexicalModels"]

/-- The text renders the project, with the sections `front` first, then `x`, and then the sections
`back`. -/
inductive Encloses (p : PackageProject) (front : List String) (x : List Char) (back : List String) :
    String → Prop
  | mk {ws gap gap' cs cs' : List Char} {sections sections' : List Tree} :
    ProjectTree p (.element "Package" ws (sections ++ sections')) →
    sections.map Tree.tag? = front.map some → sections'.map Tree.tag? = back.map some →
    Gap gap → ShownAll Gap sections cs → ShownAll Gap sections' cs' → Gap gap' →
    Encloses p front x back (String.ofList
      (gap ++ (openTag "Package" ws ++ (cs ++ (x ++ (cs' ++ (closeTag "Package" ++ gap')))))))

/-- Contents without the tags of what follows them: none opens one of the sections `back`, and while
there are such sections none closes the package. -/
def Ignorable (back : List String) (x : List Char) : Prop :=
  (∀ name ∈ back, ¬Opens name (stripComments x)) ∧
    (back ≠ [] → ¬Closes "Package" (stripComments x))

/-- Contents that change nothing where they stand between the sections `front` and `back`, whatever
the project and however it is rendered. -/
def Ignored (front : List String) (x : List Char) (back : List String) : Prop :=
  ∀ p text, p.IsCanonical → Encloses p front x back text → PackageProject.parse text = .ok p

/-- What is read of a package after the first sections, where `x` and then `back` stand there. -/
def seen (x back : List Char) : List Char :=
  ((untilClosing? "Package".toList x).map Prod.fst).getD (x ++ back)

theorem seen_of_closing {x : List Char} {r : List Char × Nat}
    (h : untilClosing? "Package".toList x = some r) (back : List Char) : seen x back = r.1 := by
  rw [seen, h]
  rfl

theorem seen_of_not_closes {x : List Char} (h : ¬Closes "Package" x) (back : List Char) :
    seen x back = x ++ back := by
  rw [← untilClosing?_isSome_iff, Option.not_isSome_iff_eq_none] at h
  rw [seen, h]
  rfl

/-- The package goes from its opening tag to the first tag that closes it. -/
theorem element?_enclosing {ws gap gap' front x back : List Char} (hgap : Blank gap)
    (hws : Blank ws) (hfront : Passes "Package" front) (hx : Shut x)
    (hback : Passes "Package" back) :
    element? "Package" (gap ++ (openTag "Package" ws ++
      (front ++ (x ++ (back ++ (closeTag "Package" ++ gap')))))) =
      some ⟨ws, front ++ seen x back⟩ := by
  have hname : IsName "Package" := by decide
  have hclosing : ∃ n, untilClosing? "Package".toList
      (front ++ (x ++ (back ++ (closeTag "Package" ++ gap')))) =
        some (front ++ seen x back, n) := by
    rw [hfront.closing]
    cases hseen : untilClosing? "Package".toList x with
    | some r =>
      rw [untilClosing?_append_of_some hname hseen, seen_of_closing hseen]
      exact ⟨r.2, rfl⟩
    | none =>
      have hno : ¬Closes "Package" x := by
        rw [← untilClosing?_isSome_iff, hseen]
        simp
      rw [untilClosing?_append_of_not_closes hname hx hno, untilClosing?_self hback,
        seen_of_not_closes hno]
      exact ⟨_, rfl⟩
  obtain ⟨n, hn⟩ := hclosing
  have hskip := (passes_of_not_mem "Package" hgap.not_mem).yields
  rw [hskip.element?_append, element?_openTag hws.isAttributes hn]

section Package

variable {p : PackageProject} {names : List String} {x ws cs cs' : List Char}
  {sections sections' : List Tree}

/-- No tag of the package stands in its sections. -/
theorem passes_package (htree : ProjectTree p (.element "Package" ws sections)) {trees : List Tree}
    (hsub : trees ⊆ sections) (hshown : ShownAll Blank trees cs) : Passes "Package" cs := by
  cases htree with
  | mk hws hinfo hws' hfiles hws'' hmodels hperm =>
    have hparts := PackageProject.project_parts hinfo hfiles hmodels hperm
    refine passes_shownAll (by decide) hshown fun hmem => ?_
    obtain ⟨tree, htree, hname⟩ := Tree.mem_namesAll.1 hmem
    have hinside := (hparts.tagged_element "Package" ws).inside "Package"
      (Tree.mem_namesAll.2 ⟨tree, hsub htree, hname⟩)
    simp [PackageProject.innerNames] at hinside

/-- In a text that encloses contents, the package has the sections in front of the contents, and
what is read after them depends on the contents. -/
theorem Encloses.exists_package {front : List String} {text : String}
    (h : Encloses p front x names text)
    (hx : Strips x (stripComments x) ∧ Shut (stripComments x)) :
    ∃ ws sections sections' cs cs', ProjectTree p (.element "Package" ws (sections ++ sections')) ∧
      sections'.map Tree.tag? = names.map some ∧ ShownAll Blank sections cs ∧
      ShownAll Blank sections' cs' ∧ element? "Package" (stripComments text.toList) =
        some ⟨ws, cs ++ seen (stripComments x) cs'⟩ := by
  cases h with
  | @mk ws _ _ _ _ _ _ htree _ hnames hgap hshown hshown' hgap' =>
    obtain ⟨blank, hstrips, hblank⟩ := strips_gap hgap
    obtain ⟨blank', hstrips', -⟩ := strips_gap hgap'
    obtain ⟨cs, hcs, hshown⟩ := strips_shownAll hshown
    obtain ⟨cs', hcs', hshown'⟩ := strips_shownAll hshown'
    have hws : Blank ws := by
      cases htree with
      | mk hws => exact hws
    have htag := strips_openTag (by decide : IsName "Package") hws.isAttributes
    have hclose := strips_closeTag (by decide : IsName "Package")
    have hall := hstrips.append (htag.append (hcs.append (hx.1.append (hcs'.append
      (hclose.append hstrips')))))
    refine ⟨_, _, _, cs, cs', htree, hnames, hshown, hshown', ?_⟩
    rw [String.toList_ofList, hall.stripComments_eq]
    exact element?_enclosing hblank hws (passes_package htree (List.subset_append_left _ _) hshown)
      hx.2 (passes_package htree (List.subset_append_right _ _) hshown')

/-- A section stands once in a project, and in no other section. -/
theorem exists_section (htree : ProjectTree p (.element "Package" ws sections)) {name : String}
    (hname : name ∈ sectionTags) :
    IsName name ∧ (∀ tree ∈ sections, name ∉ tree.inside) ∧
      ∃ tree, sections.filter (Tree.hasTag name) = [tree] := by
  cases htree with
  | mk hws hinfo hws' hfiles hws'' hmodels hperm =>
    have hparts := PackageProject.project_parts hinfo hfiles hmodels hperm
    have houter : ∀ name ∈ sectionTags, IsName name ∧ name ∉ PackageProject.innerNames := by decide
    refine ⟨(houter name hname).1, hparts.not_mem_inside (houter name hname).2, ?_⟩
    simp only [sectionTags, List.mem_cons, List.not_mem_nil, or_false] at hname
    rcases hname with rfl | rfl | rfl
    · exact ⟨_, hparts.filter_eq (.head _)⟩
    · exact ⟨_, hparts.filter_eq (.tail _ (.head _))⟩
    · exact ⟨_, hparts.filter_eq (.tail _ (.tail _ (.head _)))⟩

variable {name : String} {tree : Tree}

/-- A section that follows is looked for after the sections in front. -/
theorem element?_of_mem (hname : IsName name)
    (hinside : ∀ tree ∈ sections ++ sections', name ∉ tree.inside)
    (hnames : sections'.map Tree.tag? = names.map some)
    (hfilter : (sections ++ sections').filter (Tree.hasTag name) = [tree]) (hmem : name ∈ names)
    (hshown : ShownAll Blank sections cs) (rest : List Char) :
    element? name (cs ++ rest) = element? name rest := by
  have hnil := (Tree.filter_of_mem hnames hfilter hmem).1
  obtain ⟨es, hyields, hfound⟩ := yields_shownAll hname hshown fun tree htree =>
    hinside tree (List.mem_append_left _ htree)
  rw [hnil, List.forall₂_nil_left_iff] at hfound
  rw [hfound] at hyields
  exact hyields.element?_append rest

/-- Each section is found, in front of ignorable contents as well as after them. -/
theorem exists_found (hname : IsName name)
    (hinside : ∀ tree ∈ sections ++ sections', name ∉ tree.inside)
    (hnames : sections'.map Tree.tag? = names.map some)
    (hfilter : (sections ++ sections').filter (Tree.hasTag name) = [tree])
    (hshown : ShownAll Blank sections cs) (hshown' : ShownAll Blank sections' cs')
    (hshut : Shut (stripComments x)) (hx : Ignorable names x) :
    ∃ e, element? name (cs ++ seen (stripComments x) cs') = some e ∧ Found tree e := by
  by_cases hmem : name ∈ names
  · have hcloses := hx.2 (List.ne_nil_of_mem hmem)
    have hskip := yields_of_not_opens hname hshut (hx.1 name hmem)
    obtain ⟨e, he, hfound⟩ := element?_eq_some hname hshown'
      (fun tree htree => hinside tree (List.mem_append_right _ htree))
      (Tree.filter_of_mem hnames hfilter hmem).2
    refine ⟨e, ?_, hfound⟩
    rw [element?_of_mem hname hinside hnames hfilter hmem hshown, seen_of_not_closes hcloses,
      hskip.element?_append, he]
  · obtain ⟨es, hyields, hfound⟩ := yields_shownAll hname hshown fun tree htree =>
      hinside tree (List.mem_append_left _ htree)
    rw [Tree.filter_of_not_mem hnames hfilter hmem, List.forall₂_cons_left_iff] at hfound
    obtain ⟨e, rest, he, -, rfl⟩ := hfound
    exact ⟨e, hyields.element?_eq_some _, he⟩

end Package

namespace PackageProject

/-! ### What the sections found say -/

theorem parse_of_found {p : PackageProject} (hp : p.IsCanonical) {text : String} {package : Element}
    (hpackage : element? "Package" (stripComments text.toList) = some package)
    {info : Tree} {files models : List Tree} {ws ws' : List Char} (hinfo : InfoTree p.info info)
    (hfiles : List.Forall₂ FileTree p.files files)
    (hmodels : List.Forall₂ ModelTree p.lexicalModels models)
    (hfoundInfo : ∃ e, element? "Info" package.inner = some e ∧ Found info e)
    (hfoundFiles : ∃ e, element? "Files" package.inner = some e ∧
      Found (.element "Files" ws files) e)
    (hfoundModels : ∃ e, element? "LexicalModels" package.inner = some e ∧
      Found (.element "LexicalModels" ws' models) e) : parse text = .ok p := by
  obtain ⟨e, he, hinfo'⟩ := hfoundInfo
  obtain ⟨e', he', hfiles'⟩ := hfoundFiles
  obtain ⟨e'', he'', hmodels'⟩ := hfoundModels
  have hreadInfo := readInfo_of_found hp.info hinfo hinfo'
  have hreadFiles : readSection "Files" "File" readFile package.inner = .ok p.files :=
    readSection_of_found he' hfiles' (by decide) (by decide) hfiles (fun _ _ => FileTree.tagged)
      fun f hf _ _ htree he => readFile_of_found (hp.files f hf) htree he
  have hreadModels : readSection "LexicalModels" "LexicalModel" readModel package.inner =
      .ok p.lexicalModels :=
    readSection_of_found he'' hmodels' (by decide) (by decide) hmodels (fun _ _ => ModelTree.tagged)
      fun m hm _ _ htree he => readModel_of_found (hp.models m hm) htree he
  simp only [parse, hpackage, he, Option.map_some, Option.getD_some, hreadInfo, hreadFiles,
    hreadModels, ok_bind]
  rfl

/-- Projects in which the same section is found have something in common. -/
theorem common_of_element?_eq {p p' : PackageProject} {text text' : String}
    {package package' : Element}
    (hpackage : element? "Package" (stripComments text.toList) = some package)
    (hpackage' : element? "Package" (stripComments text'.toList) = some package')
    (h : parse text = .ok p) (h' : parse text' = .ok p') {name : String}
    (hname : name ∈ sectionTags)
    (hsame : element? name package.inner = element? name package'.inner) :
    p.info = p'.info ∨ p.files = p'.files ∨ p.lexicalModels = p'.lexicalModels := by
  simp only [parse, hpackage] at h
  simp only [parse, hpackage'] at h'
  obtain ⟨files, hfiles, h⟩ := ok_of_bind h
  obtain ⟨models, hmodels, h⟩ := ok_of_bind h
  obtain ⟨files', hfiles', h'⟩ := ok_of_bind h'
  obtain ⟨models', hmodels', h'⟩ := ok_of_bind h'
  cases h
  cases h'
  simp only [sectionTags, List.mem_cons, List.not_mem_nil, or_false] at hname
  rcases hname with rfl | rfl | rfl
  · left
    rw [hsame]
  · right; left
    rw [readSection, hsame, ← readSection, hfiles'] at hfiles
    exact (Except.ok.inj hfiles).symm
  · right; right
    rw [readSection, hsame, ← readSection, hmodels'] at hmodels
    exact (Except.ok.inj hmodels).symm

/-! ### Projects around given contents -/

theorem exists_shownAll {trees : List Tree} (h : ∀ tree ∈ trees, ∃ cs, Shown Gap tree cs) :
    ∃ cs, ShownAll Gap trees cs := by
  induction trees with
  | nil => exact ⟨[], .nil .nil⟩
  | cons tree trees ih =>
    obtain ⟨hfirst, hrest⟩ := List.forall_mem_cons.1 h
    obtain ⟨cs, hcs⟩ := hfirst
    obtain ⟨cs', hcs'⟩ := ih hrest
    exact ⟨_, .cons .nil hcs hcs'⟩

/-- A section that contains given trees. -/
def sectionTree (contents : String → List Tree) (name : String) : Tree :=
  .element name [] (contents name)

/-- A project whose sections can be shown is rendered around any contents. -/
theorem exists_encloses {p : PackageProject} {contents : String → List Tree}
    (hinfo : InfoTree p.info (sectionTree contents "Info"))
    (hfiles : List.Forall₂ FileTree p.files (contents "Files"))
    (hmodels : List.Forall₂ ModelTree p.lexicalModels (contents "LexicalModels"))
    (hshown : ∀ name ∈ sectionTags, ∃ cs, ShownAll Gap (contents name) cs)
    {front back : List String} (hsections : (front ++ back).Perm sectionTags) (x : List Char) :
    ∃ text, Encloses p front x back text := by
  have hblank : Blank [] := List.forall_mem_nil _
  have htree : ProjectTree p (.element "Package" []
      (front.map (sectionTree contents) ++ back.map (sectionTree contents))) := by
    rw [← List.map_append]
    exact .mk hblank hinfo hblank hfiles hblank hmodels (hsections.map _)
  have hall : ∀ names ⊆ sectionTags,
      ∃ cs, ShownAll Gap (names.map (sectionTree contents)) cs := by
    intro names hnames
    refine exists_shownAll fun tree htree => ?_
    obtain ⟨name, hname, rfl⟩ := List.mem_map.1 htree
    obtain ⟨cs, hcs⟩ := hshown name (hnames hname)
    have hname' : ∀ name ∈ sectionTags, IsName name := by decide
    exact ⟨_, .element (hname' name (hnames hname)) hblank.isAttributes hcs⟩
  have htags : ∀ names : List String,
      (names.map (sectionTree contents)).map Tree.tag? = names.map some := by
    intro names
    rw [List.map_map]
    rfl
  obtain ⟨cs, hcs⟩ := hall front fun name hname => hsections.subset (List.mem_append_left _ hname)
  obtain ⟨cs', hcs'⟩ := hall back fun name hname => hsections.subset (List.mem_append_right _ hname)
  exact ⟨_, .mk htree (htags front) (htags back) .nil hcs hcs' .nil⟩

/-- An element that contains one letter. -/
def letterTree (tag : String) : Tree := .element tag [] [.text (escape "A")]

/-- A project with something in each section. -/
def filled : PackageProject where
  info := { name := some "A" }
  files := [⟨"A", ""⟩]
  lexicalModels := [⟨"A", none, []⟩]

/-- What its sections contain. -/
def filledTrees (name : String) : List Tree :=
  if name = "Info" then [letterTree "Name"]
  else if name = "Files" then [.element "File" [] [letterTree "Name"]]
  else [.element "LexicalModel" [] [letterTree "ID"]]

theorem exists_encloses_empty {front back : List String}
    (hsections : (front ++ back).Perm sectionTags) (x : List Char) :
    ∃ text, Encloses {} front x back text := by
  have hblank : Blank [] := List.forall_mem_nil _
  have hinfo : InfoTree {} (sectionTree (fun _ => []) "Info") :=
    .mk hblank .omitted .omitted .omitted .omitted .omitted .omitted (.refl _)
  exact exists_encloses hinfo .nil .nil (fun _ _ => ⟨[], .nil .nil⟩) hsections x

theorem exists_encloses_filled {front back : List String}
    (hsections : (front ++ back).Perm sectionTags) (x : List Char) :
    ∃ text, Encloses filled front x back text := by
  have hblank : Blank [] := List.forall_mem_nil _
  have hinfo : InfoTree filled.info (sectionTree filledTrees "Info") :=
    .mk hblank (.present "A" hblank) .omitted .omitted .omitted .omitted .omitted (.refl _)
  have hfile : FileTree ⟨"A", ""⟩ (.element "File" [] [letterTree "Name"]) :=
    .mk hblank (.present "A" hblank) .omitted (.refl _)
  have hmodel : ModelTree ⟨"A", none, []⟩ (.element "LexicalModel" [] [letterTree "ID"]) :=
    .mk hblank (.present "A" hblank) .omitted .omitted (.refl _)
  -- how the sections are shown
  have hletter : ∀ tag, IsName tag → Shown Gap (letterTree tag) _ := fun tag htag =>
    shown_text htag hblank.isAttributes "A"
  have hitem : ∀ tag leaf, IsName tag → IsName leaf →
      ∃ cs, Shown Gap (.element tag [] [letterTree leaf]) cs := fun tag leaf htag hleaf =>
    ⟨_, .element htag hblank.isAttributes (.cons .nil (hletter leaf hleaf) (.nil .nil))⟩
  refine exists_encloses hinfo (.cons hfile .nil) (.cons hmodel .nil) (fun name hname => ?_)
    hsections x
  refine exists_shownAll ?_
  simp only [sectionTags, List.mem_cons, List.not_mem_nil, or_false] at hname
  rcases hname with rfl | rfl | rfl
  · exact List.forall_mem_singleton.2 ⟨_, hletter "Name" (by decide)⟩
  · exact List.forall_mem_singleton.2 (hitem "File" "Name" (by decide) (by decide))
  · exact List.forall_mem_singleton.2 (hitem "LexicalModel" "ID" (by decide) (by decide))

/-! ### When contents are ignored -/

/-- Ignorable contents are ignored. -/
theorem ignored_of_ignorable {front back : List String} {x : List Char}
    (hx : Strips x (stripComments x) ∧ Shut (stripComments x)) (h : Ignorable back x) :
    Ignored front x back := by
  intro p text hp hencloses
  obtain ⟨ws, sections, sections', cs, cs', htree, hnames, hshown, hshown', hpackage⟩ :=
    hencloses.exists_package hx
  cases htree with
  | mk hws hinfo hws' hfiles hws'' hmodels hperm =>
    have hparts := project_parts hinfo hfiles hmodels hperm
    have hfound : ∀ name tree, name ∈ sectionTags →
        (sections ++ sections').filter (Tree.hasTag name) = [tree] → ∃ e,
        element? name (cs ++ seen (stripComments x) cs') = some e ∧ Found tree e := by
      intro name tree hname hfilter
      obtain ⟨htag, hinside, -⟩ :=
        exists_section (.mk hws hinfo hws' hfiles hws'' hmodels hperm) hname
      exact exists_found htag hinside hnames hfilter hshown hshown' hx.2 h
    exact parse_of_found hp hpackage hinfo hfiles hmodels
      (hfound _ _ (by decide) (hparts.filter_eq (.head _)))
      (hfound _ _ (by decide) (hparts.filter_eq (.tail _ (.head _))))
      (hfound _ _ (by decide) (hparts.filter_eq (.tail _ (.tail _ (.head _)))))

/-- Contents with a tag of what follows them come to the same, whatever section follows. -/
theorem exists_element?_seen {name : String} (hname : IsName name) {x : List Char}
    (hx : Content IsAttributes (fun _ => False) x) (h : Opens name x ∨ Closes "Package" x) :
    ∃ r, ∀ back, element? name (seen x back) = r := by
  by_cases hcloses : Closes "Package" x
  · obtain ⟨r, hr⟩ := Option.isSome_iff_exists.1 (untilClosing?_isSome_iff.2 hcloses)
    exact ⟨element? name r.1, fun back => by rw [seen_of_closing hr]⟩
  · obtain ⟨e, he⟩ := hx.hides_of_opens hname (h.resolve_right hcloses)
    exact ⟨some e, fun back => by rw [seen_of_not_closes hcloses, he]⟩

theorem ignorable_of_ignored {front back : List String}
    (hsections : (front ++ back).Perm sectionTags) {x : List Char}
    (hx : Strips x (stripComments x) ∧ Shut (stripComments x))
    (hplain : Content IsAttributes IsComment x) (h : Ignored front x back) : Ignorable back x := by
  by_contra hno
  have htag : ∃ name ∈ back,
      Opens name (stripComments x) ∨ Closes "Package" (stripComments x) := by
    by_contra hnone
    push Not at hnone
    refine hno ⟨fun name hname => (hnone name hname).1, fun hne => ?_⟩
    obtain ⟨name, hname⟩ := List.exists_mem_of_ne_nil back hne
    exact (hnone name hname).2
  obtain ⟨name, hback, htag⟩ := htag
  have hname : name ∈ sectionTags := hsections.subset (List.mem_append_right _ hback)
  have hisName : ∀ name ∈ sectionTags, IsName name := by decide
  obtain ⟨r, hr⟩ := exists_element?_seen (hisName name hname) hplain.stripComments_plain htag
  -- whatever the project, the same is read for this section
  have hread : ∀ p text, Encloses p front x back text → ∃ package,
      element? "Package" (stripComments text.toList) = some package ∧
      element? name package.inner = r := by
    intro p text hencloses
    obtain ⟨ws, sections, sections', cs, cs', htree, hnames, hshown, -, hpackage⟩ :=
      hencloses.exists_package hx
    obtain ⟨hisName, hinside, tree, hfilter⟩ := exists_section htree hname
    refine ⟨_, hpackage, ?_⟩
    rw [element?_of_mem hisName hinside hnames hfilter hback hshown, hr]
  obtain ⟨text, hempty⟩ := exists_encloses_empty hsections x
  obtain ⟨text', hfilled⟩ := exists_encloses_filled hsections x
  obtain ⟨package, hpackage, hsame⟩ := hread _ _ hempty
  obtain ⟨package', hpackage', hsame'⟩ := hread _ _ hfilled
  have hcommon := common_of_element?_eq hpackage hpackage' (h _ _ (by decide) hempty)
    (h _ _ (by decide) hfilled) hname (hsame.trans hsame'.symm)
  revert hcommon
  decide

/-- **When foreign contents are ignored.**  Well-formed contents between the sections of a package
change nothing, for any project and any rendering of it, if no tag in them opens a section that
follows them and, as long as a section follows, none closes the package.  Where they have only
comments, texts and elements without brackets in their attributes, this is the only case. -/
theorem parse_encloses {front back : List String} (hsections : (front ++ back).Perm sectionTags)
    {x : List Char} (hx : Content IsTail IsNote x) :
    (Ignorable back x → Ignored front x back) ∧
      (Content IsAttributes IsComment x → Ignored front x back → Ignorable back x) :=
  ⟨ignored_of_ignorable hx.stripComments_shut,
    ignorable_of_ignored hsections hx.stripComments_shut⟩

/-- An element with a bracket in an attribute, a section's tag in a comment, and characters that
look like a tag. -/
def systemText : List Char :=
  "<System Note=\"1 > 0\"><!--<Files>--><Version>12</Version ><![CDATA[<b>]]></System>".toList

theorem systemText_content : Content IsTail IsNote systemText := by
  have hblank : Blank [] := List.forall_mem_nil _
  have hspace : Blank [' '] := List.forall_mem_singleton.2 (by decide)
  have hplain : IsTail [] := ⟨by simp, by simp, by simp⟩
  have hhead : ∀ c ∈ " Note=\"1 > 0\"".toList.head?, Text.isBlank c = true := by
    rintro c ⟨⟩
    decide
  have hnote : IsTail " Note=\"1 > 0\"".toList := ⟨hhead, by decide, by decide⟩
  have hraw : IsRaw ("<![CDATA[".toList ++ "<b>".toList ++ "]]>".toList) :=
    ⟨by decide +kernel, _, .inr rfl⟩
  have hcomment : IsComment (commentOpening ++ "<Files>".toList ++ commentClosing) :=
    ⟨_, by decide +kernel, rfl⟩
  have hversion : Content IsTail IsNote _ := .element (by decide : IsName "Version") hplain
    (.text (by decide : '<' ∉ "12".toList) .nil) hspace
    (.note (.inr hraw) .nil)
  have hsystem : Content IsTail IsNote _ := .element (by decide : IsName "System") hnote
    (.note (.inl hcomment) hversion) hblank .nil
  exact Eq.mp (congrArg (Content IsTail IsNote) (by decide +kernel)) hsystem

theorem ignored_systemText :
    (["Info"] ++ ["Files", "LexicalModels"]).Perm sectionTags ∧
    Ignored ["Info"] systemText ["Files", "LexicalModels"] ∧
    ∃ text, Encloses filled ["Info"] systemText ["Files", "LexicalModels"] text ∧
      parse text = .ok filled := by
  have hsections : (["Info"] ++ ["Files", "LexicalModels"]).Perm sectionTags := .refl _
  have hignorable : Ignorable ["Files", "LexicalModels"] systemText :=
    ⟨by decide +kernel, fun _ => by decide +kernel⟩
  have hignored := (parse_encloses hsections systemText_content).1 hignorable
  obtain ⟨text, htext⟩ := exists_encloses_filled hsections systemText
  exact ⟨hsections, hignored, text, htext, hignored filled text (by decide) htext⟩

/-- A project with a name only. -/
def shadowed : PackageProject where
  info := { name := some "Sample" }

/-- An element in which a section's name stands further inside. -/
def shadow : List Char :=
  openTag "Extra" [] ++ "<Files><File><Name>other</Name></File></Files>".toList ++ closeTag "Extra"

/-- The project with this element between its first two sections. -/
def shadowedText : String :=
  "<Package><Info><Name>Sample</Name></Info>" ++
  "<Extra><Files><File><Name>other</Name></File></Files></Extra>" ++
  "<Files></Files><LexicalModels></LexicalModels></Package>"

theorem shadow_content : Content IsAttributes IsComment shadow := by
  have hblank : Blank [] := List.forall_mem_nil _
  have hplain : IsAttributes [] := hblank.isAttributes
  have hname : Content IsAttributes IsComment _ := .element (by decide : IsName "Name") hplain
    (.text (by decide : '<' ∉ "other".toList) .nil) hblank .nil
  have hfile : Content IsAttributes IsComment _ :=
    .element (by decide : IsName "File") hplain hname hblank .nil
  have hfiles : Content IsAttributes IsComment _ :=
    .element (by decide : IsName "Files") hplain hfile hblank .nil
  have hextra : Content IsAttributes IsComment _ :=
    .element (by decide : IsName "Extra") hplain hfiles hblank .nil
  exact Eq.mp (congrArg (Content IsAttributes IsComment) (by decide +kernel)) hextra

theorem shadowedText_encloses :
    Encloses shadowed ["Info"] shadow ["Files", "LexicalModels"] shadowedText := by
  have hblank : Blank [] := List.forall_mem_nil _
  have hplain : IsAttributes [] := hblank.isAttributes
  have hinfo : InfoTree shadowed.info _ :=
    .mk hblank (.present "Sample" hblank) .omitted .omitted .omitted .omitted .omitted (.refl _)
  have hproject : ProjectTree shadowed (.element "Package" [] ([_] ++ _)) :=
    .mk hblank hinfo hblank .nil hblank .nil (.refl _)
  -- how the sections are shown
  have hinfo' : Shown Gap (.element "Info" [] [_]) _ := .element (by decide) hplain
    (.cons .nil (shown_text (by decide : IsName "Name") hplain "Sample") (.nil .nil))
  have hfiles : Shown Gap (.element "Files" [] []) _ := .element (by decide) hplain (.nil .nil)
  have hmodels : Shown Gap (.element "LexicalModels" [] []) _ :=
    .element (by decide) hplain (.nil .nil)
  have hencloses := Encloses.mk (x := shadow) hproject (rfl : _ = ["Info"].map some)
    (rfl : _ = ["Files", "LexicalModels"].map some) .nil (.cons .nil hinfo' (.nil .nil))
    (.cons .nil hfiles (.cons .nil hmodels (.nil .nil))) .nil
  exact Eq.mp (congrArg (Encloses shadowed ["Info"] shadow ["Files", "LexicalModels"])
    (by decide +kernel)) hencloses

/-- **A section's name inside of another element is taken for the section**, so that such an element
is not ignored. -/
theorem nested_section_shadows : shadowed.IsCanonical ∧ Content IsAttributes IsComment shadow ∧
    Encloses shadowed ["Info"] shadow ["Files", "LexicalModels"] shadowedText ∧
    parse shadowedText = .ok { shadowed with files := [⟨"other", ""⟩] } := by
  refine ⟨by decide, shadow_content, shadowedText_encloses, ?_⟩
  decide +kernel

end PackageProject

end LexicalModel
