import LexicalModel.Package.Project
import LexicalModel.Proofs.Markup.Attribute
import LexicalModel.Proofs.Markup.Elements
import Mathlib.Tactic.MkIffOfInductiveProp

/-!
# Renderings of projects

A project is rendered as a tree, and a tree is shown as a text.  The parts of an element may come in
any order, what is left out may also stand there as an empty element, and white space and comments
may stand around everything.

* `PackageProject.IsCanonical` : the projects that can be rendered
* `ProjectTree` : the trees that render a project
* `Renders` : the texts that render a project
* `Parts.filter_eq` : a part is found in whatever order the parts come
-/

namespace LexicalModel

open Markup

/-! ### Projects that can be rendered -/

/-- A text that is there: not empty, and without white space at its ends. -/
def IsPresent (t : String) : Prop := t ≠ "" ∧ Text.trim t = t

instance : DecidablePred IsPresent := fun t => inferInstanceAs (Decidable (t ≠ "" ∧ _))

/-- The text, unless it is empty. -/
def nonEmpty? (t : String) : Option String := (some t).filter (· ≠ "")

/-- An author has a name or an address, or both. -/
@[mk_iff]
structure PackageAuthor.IsCanonical (a : PackageAuthor) : Prop where
  /-- One of both is there. -/
  given : a.name ≠ "" ∨ a.email ≠ none
  /-- The name, if it is there. -/
  name : ∀ t ∈ nonEmpty? a.name, IsPresent t
  /-- The address, if it is there. -/
  email : a.email ≠ some ""

instance : DecidablePred PackageAuthor.IsCanonical := fun a =>
  decidable_of_iff' _ (PackageAuthor.isCanonical_iff a)

/-- Each text of the information is there or left out. -/
@[mk_iff]
structure PackageInfo.IsCanonical (i : PackageInfo) : Prop where
  /-- The texts. -/
  texts : ∀ x ∈ [i.name, i.version, i.copyright, i.website, i.description], ∀ t ∈ x, IsPresent t
  /-- The author. -/
  author : ∀ a ∈ i.author, a.IsCanonical

instance : DecidablePred PackageInfo.IsCanonical := fun i =>
  decidable_of_iff' _ (PackageInfo.isCanonical_iff i)

/-- A listed file has a source, and a description that may be empty. -/
@[mk_iff]
structure ProjectFile.IsCanonical (f : ProjectFile) : Prop where
  /-- The source. -/
  source : IsPresent f.source
  /-- The description, if it is there. -/
  description : ∀ t ∈ nonEmpty? f.description, IsPresent t

instance : DecidablePred ProjectFile.IsCanonical := fun f =>
  decidable_of_iff' _ (ProjectFile.isCanonical_iff f)

/-- A language has a tag, and a name that may be left out. -/
@[mk_iff]
structure PackageLanguage.IsCanonical (l : PackageLanguage) : Prop where
  /-- The tag, which may have white space at its ends. -/
  id : l.id ≠ ""
  /-- The name, if it is there. -/
  name : ∀ t ∈ l.name, IsPresent t

instance : DecidablePred PackageLanguage.IsCanonical := fun l =>
  decidable_of_iff' _ (PackageLanguage.isCanonical_iff l)

/-- A model has an identifier, and a name that may be left out. -/
@[mk_iff]
structure PackageModel.IsCanonical (m : PackageModel) : Prop where
  /-- The identifier. -/
  id : IsPresent m.id
  /-- The name, if it is there. -/
  name : ∀ t ∈ m.name, IsPresent t
  /-- The languages. -/
  languages : ∀ l ∈ m.languages, l.IsCanonical

instance : DecidablePred PackageModel.IsCanonical := fun m =>
  decidable_of_iff' _ (PackageModel.isCanonical_iff m)

/-- Every text of the project is there or left out. -/
@[mk_iff]
structure PackageProject.IsCanonical (p : PackageProject) : Prop where
  /-- The general information. -/
  info : p.info.IsCanonical
  /-- The listed files. -/
  files : ∀ f ∈ p.files, f.IsCanonical
  /-- The models. -/
  models : ∀ m ∈ p.lexicalModels, m.IsCanonical

instance : DecidablePred PackageProject.IsCanonical := fun p =>
  decidable_of_iff' _ (PackageProject.isCanonical_iff p)

/-! ### Renderings -/

/-- The contents of an element with the given text. -/
def textTrees (t : String) : List Tree := if t = "" then [] else [.text (escape t)]

/-- The elements for a text that may be left out: none, an empty one, or one with the text. -/
inductive TextTree (tag : String) : Option String → List Tree → Prop
  | omitted : TextTree tag none []
  | empty {ws : List Char} : Blank ws → TextTree tag none [.element tag ws []]
  | present {ws : List Char} (t : String) : Blank ws →
    TextTree tag (some t) [.element tag ws [.text (escape t)]]

/-- The link that opens a mail to an address. -/
def mailLink (email : String) : String := "mailto:" ++ email

/-- The elements for an author who may be left out. -/
inductive AuthorTree : Option PackageAuthor → List Tree → Prop
  | omitted : AuthorTree none []
  | empty {ws : List Char} : Blank ws → AuthorTree none [.element "Author" ws []]
  | present {attributes : List Char} (a : PackageAuthor) :
    Attributed "URL" (a.email.map mailLink) attributes →
    AuthorTree (some a) [.element "Author" attributes (textTrees a.name)]

/-- The elements for general information, its parts in any order. -/
inductive InfoTree (i : PackageInfo) : Tree → Prop
  | mk {ws : List Char} {name author version copyright website description children : List Tree} :
    Blank ws → TextTree "Name" i.name name → AuthorTree i.author author →
    TextTree "Version" i.version version → TextTree "Copyright" i.copyright copyright →
    TextTree "WebSite" i.website website → TextTree "Description" i.description description →
    children.Perm (name ++ author ++ version ++ copyright ++ website ++ description) →
    InfoTree i (.element "Info" ws children)

/-- The elements for a listed file. -/
inductive FileTree (f : ProjectFile) : Tree → Prop
  | mk {ws : List Char} {name description children : List Tree} :
    Blank ws → TextTree "Name" (some f.source) name →
    TextTree "Description" (nonEmpty? f.description) description →
    children.Perm (name ++ description) → FileTree f (.element "File" ws children)

/-- The elements for a language. -/
inductive LanguageTree (l : PackageLanguage) : Tree → Prop
  | mk {attributes : List Char} : Attributed "ID" (some l.id) attributes →
    LanguageTree l (.element "Language" attributes (textTrees (l.name.getD "")))

/-- The elements for languages, which may be left out where there are none. -/
inductive LanguagesTree : List PackageLanguage → List Tree → Prop
  | omitted : LanguagesTree [] []
  | listed {ws : List Char} {languages : List PackageLanguage} {trees : List Tree} :
    Blank ws → List.Forall₂ LanguageTree languages trees →
    LanguagesTree languages [.element "Languages" ws trees]

/-- The elements for a model. -/
inductive ModelTree (m : PackageModel) : Tree → Prop
  | mk {ws : List Char} {id name languages children : List Tree} :
    Blank ws → TextTree "ID" (some m.id) id → TextTree "Name" m.name name →
    LanguagesTree m.languages languages → children.Perm (id ++ name ++ languages) →
    ModelTree m (.element "LexicalModel" ws children)

/-- The elements for a project, its sections in any order. -/
inductive ProjectTree (p : PackageProject) : Tree → Prop
  | mk {ws ws' ws'' : List Char} {info : Tree} {files models sections : List Tree} :
    Blank ws → InfoTree p.info info →
    Blank ws' → List.Forall₂ FileTree p.files files →
    Blank ws'' → List.Forall₂ ModelTree p.lexicalModels models →
    sections.Perm [info, .element "Files" ws' files, .element "LexicalModels" ws'' models] →
    ProjectTree p (.element "Package" ws sections)

/-- The text renders the project: it shows a tree of the project, with white space and comments
around everything. -/
def Renders (p : PackageProject) (text : String) : Prop :=
  ∃ tree, ProjectTree p tree ∧ ShownAll Gap [tree] text.toList

/-! ### Parts of an element -/

/-- An element of the name `tag`, inside of which there are elements of the names `inner` only. -/
structure Tagged (tag : String) (inner : List String) (tree : Tree) : Prop where
  /-- The name. -/
  tagged : tree.hasTag tag = true
  /-- The names inside. -/
  inside : ∀ name ∈ tree.inside, name ∈ inner

theorem Tagged.names {tag : String} {inner : List String} {tree : Tree} (h : Tagged tag inner tree)
    {name : String} (hname : name ∈ tree.names) : name ∈ tag :: inner := by
  cases tree with
  | text cs => exact absurd h.tagged (by simp [Tree.hasTag])
  | element other attributes children =>
    rw [Tree.names, List.mem_cons] at hname
    rcases hname with rfl | hname
    · exact List.mem_cons.2 (.inl (of_decide_eq_true h.tagged))
    · exact List.mem_cons_of_mem _ (h.inside name hname)

theorem Tagged.mono {tag : String} {inner inner' : List String} {tree : Tree}
    (h : Tagged tag inner tree) (hsub : inner ⊆ inner') : Tagged tag inner' tree :=
  ⟨h.tagged, fun name hname => hsub (h.inside name hname)⟩

theorem Tagged.hasTag_eq {tag : String} {inner : List String} {tree : Tree}
    (h : Tagged tag inner tree) (other : String) : tree.hasTag other = decide (tag = other) := by
  cases tree with
  | text cs => exact absurd h.tagged (by simp [Tree.hasTag])
  | element name attributes children =>
    have hname : name = tag := of_decide_eq_true h.tagged
    rw [Tree.hasTag, hname]

/-- One element of the name `tag`, or none. -/
structure Part (tag : String) (inner : List String) (trees : List Tree) : Prop where
  /-- At most one. -/
  short : trees.length ≤ 1
  /-- The element. -/
  tagged : ∀ tree ∈ trees, Tagged tag inner tree

theorem part_nil (tag : String) (inner : List String) : Part tag inner [] :=
  ⟨Nat.zero_le 1, fun _ h => absurd h List.not_mem_nil⟩

theorem part_singleton {tag : String} {inner : List String} {tree : Tree}
    (h : Tagged tag inner tree) : Part tag inner [tree] :=
  ⟨Nat.le_refl 1, fun _ hmem => List.mem_singleton.1 hmem ▸ h⟩

theorem Part.mono {tag : String} {inner inner' : List String} {trees : List Tree}
    (h : Part tag inner trees) (hsub : inner ⊆ inner') : Part tag inner' trees :=
  ⟨h.short, fun tree htree => (h.tagged tree htree).mono hsub⟩

theorem Part.filter_eq {tag : String} {inner : List String} {trees : List Tree}
    (h : Part tag inner trees) (other : String) :
    trees.filter (Tree.hasTag other) = if tag = other then trees else [] := by
  split
  · next hsame =>
    exact List.filter_eq_self.2 fun tree htree => hsame ▸ (h.tagged tree htree).tagged
  · next hne =>
    refine List.filter_eq_nil_iff.2 fun tree htree hother => hne ?_
    rw [(h.tagged tree htree).hasTag_eq] at hother
    exact of_decide_eq_true hother

/-- The children of an element are parts in any order.  Each part stands with its tag, and no two
parts have the same tag. -/
structure Parts (inner : List String) (parts : List (String × List Tree))
    (children : List Tree) : Prop where
  /-- The tags differ. -/
  distinct : (parts.map Prod.fst).Nodup
  /-- The parts. -/
  part : ∀ p ∈ parts, Part p.1 inner p.2
  /-- The order. -/
  perm : children.Perm (parts.flatMap Prod.snd)

namespace Parts

variable {inner : List String} {parts : List (String × List Tree)} {children : List Tree}

theorem tagged_of_mem (h : Parts inner parts children) {tree : Tree} (htree : tree ∈ children) :
    ∃ p ∈ parts, Tagged p.1 inner tree := by
  obtain ⟨p, hp, hmem⟩ := List.mem_flatMap.1 (h.perm.mem_iff.1 htree)
  exact ⟨p, hp, (h.part p hp).tagged tree hmem⟩

theorem not_mem_inside (h : Parts inner parts children) {tag : String} (htag : tag ∉ inner) :
    ∀ tree ∈ children, tag ∉ tree.inside := by
  intro tree htree hmem
  obtain ⟨p, -, htagged⟩ := h.tagged_of_mem htree
  exact htag (htagged.inside tag hmem)

theorem tagged_element (h : Parts inner parts children) (tag : String) (ws : List Char) :
    Tagged tag (parts.map Prod.fst ++ inner) (.element tag ws children) := by
  refine ⟨by simp [Tree.hasTag], fun name hname => ?_⟩
  obtain ⟨tree, htree, hmem⟩ := Tree.mem_namesAll.1 hname
  obtain ⟨p, hp, htagged⟩ := h.tagged_of_mem htree
  rw [List.mem_append]
  rcases List.mem_cons.1 (htagged.names hmem) with rfl | hinner
  · exact .inl (List.mem_map_of_mem hp)
  · exact .inr hinner

theorem filter_flatMap {tag : String} {trees : List Tree} (hpart : (tag, trees) ∈ parts)
    (hdistinct : (parts.map Prod.fst).Nodup) (hparts : ∀ p ∈ parts, Part p.1 inner p.2) :
    (parts.flatMap Prod.snd).filter (Tree.hasTag tag) = trees := by
  induction parts with
  | nil => cases hpart
  | cons p parts ih =>
    obtain ⟨hfirst, hrest⟩ := List.nodup_cons.1 hdistinct
    obtain ⟨hp, hps⟩ := List.forall_mem_cons.1 hparts
    rw [List.flatMap_cons, List.filter_append, hp.filter_eq]
    rcases List.mem_cons.1 hpart with rfl | hmem
    · -- the tags differ, so no later part has this one
      have hothers : (parts.flatMap Prod.snd).filter (Tree.hasTag tag) = [] := by
        refine List.filter_eq_nil_iff.2 fun tree htree hother => hfirst ?_
        obtain ⟨q, hq, htree⟩ := List.mem_flatMap.1 htree
        rw [((hps q hq).tagged tree htree).hasTag_eq] at hother
        exact List.mem_map.2 ⟨q, hq, of_decide_eq_true hother⟩
      rw [if_pos rfl, hothers, List.append_nil]
    · have hne : p.1 ≠ tag := fun he => hfirst (he ▸ List.mem_map_of_mem hmem)
      rw [if_neg hne, List.nil_append, ih hmem hrest hps]

/-- A part is found in whatever order the parts come. -/
theorem filter_eq (h : Parts inner parts children) {tag : String} {trees : List Tree}
    (hpart : (tag, trees) ∈ parts) : children.filter (Tree.hasTag tag) = trees := by
  have hfilter := h.perm.filter (Tree.hasTag tag)
  rw [filter_flatMap hpart h.distinct h.part] at hfilter
  -- at most one element cannot be in any other order
  have hshort := (h.part _ hpart).short
  match trees with
  | [] => exact hfilter.eq_nil
  | [tree] => exact hfilter.eq_singleton
  | _ :: _ :: _ => simp at hshort

end Parts

theorem tagged_textTrees (tag : String) (attributes : List Char) (t : String) :
    Tagged tag [] (.element tag attributes (textTrees t)) := by
  refine ⟨by simp [Tree.hasTag], ?_⟩
  unfold textTrees
  split <;> simp [Tree.inside, Tree.namesAll, Tree.names]

theorem TextTree.part {tag : String} {x : Option String} {trees : List Tree}
    (h : TextTree tag x trees) : Part tag [] trees := by
  cases h with
  | omitted => exact part_nil tag []
  | empty hws => exact part_singleton (tagged_textTrees tag _ "")
  | present t hws =>
    exact part_singleton ⟨by simp [Tree.hasTag], by simp [Tree.inside, Tree.namesAll, Tree.names]⟩

theorem AuthorTree.part {x : Option PackageAuthor} {trees : List Tree} (h : AuthorTree x trees) :
    Part "Author" [] trees := by
  cases h with
  | omitted => exact part_nil "Author" []
  | empty hws => exact part_singleton (tagged_textTrees "Author" _ "")
  | present a hattributes => exact part_singleton (tagged_textTrees "Author" _ a.name)

theorem info_parts {i : PackageInfo}
    {name author version copyright website description children : List Tree}
    (hname : TextTree "Name" i.name name) (hauthor : AuthorTree i.author author)
    (hversion : TextTree "Version" i.version version)
    (hcopyright : TextTree "Copyright" i.copyright copyright)
    (hwebsite : TextTree "WebSite" i.website website)
    (hdescription : TextTree "Description" i.description description)
    (hperm : children.Perm (name ++ author ++ version ++ copyright ++ website ++ description)) :
    Parts [] [("Name", name), ("Author", author), ("Version", version), ("Copyright", copyright),
      ("WebSite", website), ("Description", description)] children := by
  refine ⟨by simp, ?_, by simpa using hperm⟩
  simp only [List.forall_mem_cons]
  exact ⟨hname.part, hauthor.part, hversion.part, hcopyright.part, hwebsite.part,
    hdescription.part, by simp⟩

theorem InfoTree.tagged {i : PackageInfo} {tree : Tree} (h : InfoTree i tree) :
    Tagged "Info" ["Name", "Author", "Version", "Copyright", "WebSite", "Description"] tree := by
  cases h with
  | mk hws hname hauthor hversion hcopyright hwebsite hdescription hperm =>
    exact (info_parts hname hauthor hversion hcopyright hwebsite hdescription hperm).tagged_element
      "Info" _

theorem file_parts {f : ProjectFile} {name description children : List Tree}
    (hname : TextTree "Name" (some f.source) name)
    (hdescription : TextTree "Description" (nonEmpty? f.description) description)
    (hperm : children.Perm (name ++ description)) :
    Parts [] [("Name", name), ("Description", description)] children := by
  refine ⟨by simp, ?_, by simpa using hperm⟩
  simp only [List.forall_mem_cons]
  exact ⟨hname.part, hdescription.part, by simp⟩

theorem FileTree.tagged {f : ProjectFile} {tree : Tree} (h : FileTree f tree) :
    Tagged "File" ["Name", "Description"] tree := by
  cases h with
  | mk hws hname hdescription hperm =>
    exact (file_parts hname hdescription hperm).tagged_element "File" _

theorem LanguageTree.tagged {l : PackageLanguage} {tree : Tree} (h : LanguageTree l tree) :
    Tagged "Language" [] tree := by
  cases h with
  | mk hattributes => exact tagged_textTrees "Language" _ _

section Items

variable {α : Type} {Item : α → Tree → Prop} {tag : String} {inner : List String} {xs : List α}
  {trees : List Tree}

theorem forall_tagged (hitems : List.Forall₂ Item xs trees)
    (htagged : ∀ x tree, Item x tree → Tagged tag inner tree) :
    ∀ tree ∈ trees, Tagged tag inner tree := by
  induction hitems with
  | nil => exact fun _ h => absurd h List.not_mem_nil
  | cons hx hrest ih => exact List.forall_mem_cons.2 ⟨htagged _ _ hx, ih⟩

theorem tagged_items (hitems : List.Forall₂ Item xs trees)
    (htagged : ∀ x tree, Item x tree → Tagged tag inner tree) (outer : String) (ws : List Char) :
    Tagged outer (tag :: inner) (.element outer ws trees) := by
  refine ⟨by simp [Tree.hasTag], fun name hname => ?_⟩
  obtain ⟨tree, htree, hmem⟩ := Tree.mem_namesAll.1 hname
  exact (forall_tagged hitems htagged tree htree).names hmem

end Items

theorem LanguagesTree.part {languages : List PackageLanguage} {trees : List Tree}
    (h : LanguagesTree languages trees) : Part "Languages" ["Language"] trees := by
  cases h with
  | omitted => exact part_nil "Languages" _
  | listed hws hlanguages =>
    exact part_singleton (tagged_items hlanguages (fun _ _ => LanguageTree.tagged) "Languages" _)

theorem model_parts {m : PackageModel} {id name languages children : List Tree}
    (hid : TextTree "ID" (some m.id) id) (hname : TextTree "Name" m.name name)
    (hlanguages : LanguagesTree m.languages languages)
    (hperm : children.Perm (id ++ name ++ languages)) :
    Parts ["Language"] [("ID", id), ("Name", name), ("Languages", languages)] children := by
  refine ⟨by simp, ?_, by simpa using hperm⟩
  simp only [List.forall_mem_cons]
  exact ⟨hid.part.mono (List.nil_subset _), hname.part.mono (List.nil_subset _), hlanguages.part,
    by simp⟩

theorem ModelTree.tagged {m : PackageModel} {tree : Tree} (h : ModelTree m tree) :
    Tagged "LexicalModel" ["ID", "Name", "Languages", "Language"] tree := by
  cases h with
  | mk hws hid hname hlanguages hperm =>
    exact (model_parts hid hname hlanguages hperm).tagged_element "LexicalModel" _

end LexicalModel
