import LexicalModel.Proofs.Failure
import LexicalModel.Proofs.Project.Rendering

/-!
# Reading rendered projects

Whatever tree renders a project, in whatever order its elements come, and whatever white space and
comments stand around them, the reader gives the project again.

* `childText?_of_parts` : what is read of a text that may be left out
* `readSection_of_found`, `readSection_of_parts` : what is read of a list of items
* `PackageProject.parse_of_renders` : a project is read back from each of its renderings
-/

namespace LexicalModel

open Markup

variable {inner : List String} {parts : List (String × List Tree)} {children : List Tree}
  {cs : List Char}

/-! ### Reading texts -/

theorem unpadded_of_isPresent {t : String} (h : IsPresent t) : Unpadded t.toList := by
  refine unpadded_of_trimChars ?_
  have htrim := congrArg String.toList h.2
  rwa [Text.trim, String.toList_ofList] at htrim

section Found

variable {tag : String} {attributes : List Char} {e : Element}

theorem text_of_found_empty (h : Found (.element tag attributes []) e) : e.text = "" := by
  cases h with
  | mk h =>
    cases h with
    | nil hws =>
      rw [Element.text, trimChars_blank hws]
      rfl

theorem text_of_found {t : String} (h : Found (.element tag attributes [.text (escape t)]) e)
    (ht : IsPresent t) : e.text = t := by
  cases h with
  | mk h =>
    cases h with
    | cons hws htext hnil =>
      cases htext
      cases hnil with
      | nil hws' =>
        have hunpadded := unpadded_escape (unpadded_of_isPresent ht)
        rw [Element.text, trimChars_padded hws hunpadded hws', unescape_escape,
          String.ofList_toList]

theorem text_of_found_textTrees {t : String}
    (h : Found (.element tag attributes (textTrees t)) e)
    (ht : ∀ t' ∈ nonEmpty? t, IsPresent t') : e.text = t := by
  unfold textTrees at h
  split at h
  · next hempty =>
    rw [text_of_found_empty h, hempty]
  · next hne => exact text_of_found h (ht t (by simp [nonEmpty?, hne]))

end Found

theorem getD_nonEmpty? (t : String) : (nonEmpty? t).getD "" = t := by
  by_cases h : t = "" <;> simp [nonEmpty?, Option.filter_some, h]

theorem nonEmpty?_getD {x : Option String} (h : ∀ t ∈ x, IsPresent t) :
    nonEmpty? (x.getD "") = x := by
  cases x with
  | none => rfl
  | some t => simp [nonEmpty?, (h t rfl).1]

/-- A text is read where its part of the children stands. -/
theorem childText?_of_parts (hparts : Parts inner parts children)
    (h : ShownAll Blank children cs) {tag : String} (htag : IsName tag) (hinner : tag ∉ inner)
    {part : List Tree} (hmem : (tag, part) ∈ parts) {x : Option String}
    (hpart : TextTree tag x part) (hx : ∀ t ∈ x, IsPresent t) :
    childText? tag cs = x := by
  have hinside := hparts.not_mem_inside hinner
  have hfilter := hparts.filter_eq hmem
  cases hpart with
  | omitted =>
    rw [childText?, element?_eq_none htag h hinside hfilter]
    rfl
  | empty hws =>
    obtain ⟨e, he, hfound⟩ := element?_eq_some htag h hinside hfilter
    rw [childText?, he, Option.map_some, text_of_found_empty hfound]
    rfl
  | present t hws =>
    obtain ⟨e, he, hfound⟩ := element?_eq_some htag h hinside hfilter
    have ht := hx t rfl
    rw [childText?, he, Option.map_some, text_of_found hfound ht]
    simp [ht.1]

/-! ### Reading the sections -/

namespace PackageProject

theorem mailAddress?_mailLink {email : String} (h : email ≠ "") :
    mailAddress? (mailLink email) = some email := by
  have hfront : ("mailto:".toList).isPrefixOf? (mailLink email).toList = some email.toList := by
    rw [List.isPrefixOf?_eq_some_iff_append_eq, mailLink, String.toList_append]
  have hne : email.toList ≠ [] := fun he => h (String.toList_inj.1 he)
  rw [mailAddress?, hfront]
  simp [hne]

theorem readAuthor_of_found {a : PackageAuthor} (ha : a.IsCanonical) {attributes : List Char}
    (hattributes : Attributed "URL" (a.email.map mailLink) attributes) {e : Element}
    (h : Found (.element "Author" attributes (textTrees a.name)) e) : readAuthor e = some a := by
  have hname := text_of_found_textTrees h ha.name
  have hemail : (attribute? "URL" attributes).bind mailAddress? = a.email := by
    rw [attribute?_attributed (by decide) hattributes]
    cases hemail : a.email with
    | none => rfl
    | some email =>
      have hne : email ≠ "" := by
        rintro rfl
        exact ha.email hemail
      exact mailAddress?_mailLink hne
  cases h with
  | mk h =>
    have hgiven : a.name ≠ "" ∨ a.email.isSome = true :=
      ha.given.imp_right Option.isSome_iff_ne_none.2
    simp only [readAuthor, hname, hemail, if_pos hgiven]

theorem author_of_parts (hparts : Parts inner parts children) (h : ShownAll Blank children cs)
    (hinner : "Author" ∉ inner) {part : List Tree} (hmem : ("Author", part) ∈ parts)
    {x : Option PackageAuthor} (hpart : AuthorTree x part) (hx : ∀ a ∈ x, a.IsCanonical) :
    (element? "Author" cs).bind readAuthor = x := by
  have hname : IsName "Author" := by decide
  have hinside := hparts.not_mem_inside hinner
  have hfilter := hparts.filter_eq hmem
  cases hpart with
  | omitted =>
    rw [element?_eq_none hname h hinside hfilter]
    rfl
  | empty hws =>
    obtain ⟨e, he, hfound⟩ := element?_eq_some hname h hinside hfilter
    have htext := text_of_found_empty hfound
    have hurl : attribute? "URL" _ = none := attribute?_attributed (by decide) (.absent hws)
    cases hfound
    rw [he, Option.bind_some, readAuthor, htext, hurl]
    simp
  | present a hattributes =>
    obtain ⟨e, he, hfound⟩ := element?_eq_some hname h hinside hfilter
    rw [he, Option.bind_some, readAuthor_of_found (hx a rfl) hattributes hfound]

theorem readInfo_of_found {i : PackageInfo} (hi : i.IsCanonical) {tree : Tree}
    (h : InfoTree i tree) {e : Element} (he : Found tree e) : readInfo e.inner = i := by
  cases h with
  | mk hws hname hauthor hversion hcopyright hwebsite hdescription hperm =>
    cases he with
    | mk hshown =>
      have hparts := info_parts hname hauthor hversion hcopyright hwebsite hdescription hperm
      have htext := @childText?_of_parts _ _ _ _ hparts hshown
      rw [readInfo, htext (by decide) (by simp) (by simp) hname (hi.texts _ (by simp)),
        htext (by decide) (by simp) (by simp) hversion (hi.texts _ (by simp)),
        htext (by decide) (by simp) (by simp) hcopyright (hi.texts _ (by simp)),
        htext (by decide) (by simp) (by simp) hwebsite (hi.texts _ (by simp)),
        htext (by decide) (by simp) (by simp) hdescription (hi.texts _ (by simp)),
        author_of_parts hparts hshown (by simp) (by simp) hauthor hi.author]

theorem readFile_of_found {f : ProjectFile} (hf : f.IsCanonical) {tree : Tree}
    (h : FileTree f tree) {e : Element} (he : Found tree e) : readFile e = .ok f := by
  cases h with
  | mk hws hname hdescription hperm =>
    cases he with
    | mk hshown =>
      have hparts := file_parts hname hdescription hperm
      have hsource := childText?_of_parts hparts hshown (by decide) (by simp) (by simp) hname
        fun t ht => Option.some.inj ht ▸ hf.source
      have htext := childText?_of_parts hparts hshown (by decide) (by simp) (by simp) hdescription
        hf.description
      simp only [readFile, hsource, htext, getD_nonEmpty?]

theorem readLanguage_of_found {l : PackageLanguage} (hl : l.IsCanonical) {tree : Tree}
    (h : LanguageTree l tree) {e : Element} (he : Found tree e) (model : String) :
    readLanguage model e = .ok l := by
  cases h with
  | mk hattributes =>
    have hid := attribute?_attributed (by decide) hattributes
    have hname := nonEmpty?_getD hl.name
    have htext : e.text = l.name.getD "" := by
      refine text_of_found_textTrees he ?_
      rw [hname]
      exact hl.name
    cases he with
    | mk hshown =>
      have hgiven : (some l.id).filter (· ≠ "") = some l.id := by simp [hl.id]
      rw [nonEmpty?] at hname
      simp only [readLanguage, hid, hgiven, htext, hname]

section Items

variable {α : Type} {Item : α → Tree → Prop} {itemTag : String} {itemInner : List String}
  {xs : List α} {items : List Tree} {read : Element → Except Cause α}

theorem mapM_of_forall₂ {es : List Element} (hitems : List.Forall₂ Item xs items)
    (hfound : List.Forall₂ Found items es)
    (hread : ∀ x ∈ xs, ∀ tree e, Item x tree → Found tree e → read e = .ok x) :
    es.mapM read = .ok xs := by
  induction hitems generalizing es with
  | nil =>
    cases hfound
    rfl
  | cons hx hrest ih =>
    obtain ⟨hfirst, hothers⟩ := List.forall_mem_cons.1 hread
    cases hfound with
    | cons he hes =>
      rw [List.mapM_cons, hfirst _ _ hx he, ok_bind, ih hes hothers, ok_bind]
      rfl

/-- The items of a section are read one by one. -/
theorem readSection_of_found {sectionTag : String} {e : Element}
    (he : element? sectionTag cs = some e) {ws : List Char}
    (hfound : Found (.element sectionTag ws items) e) (hitem : IsName itemTag)
    (hitemInner : itemTag ∉ itemInner) (hitems : List.Forall₂ Item xs items)
    (htagged : ∀ x tree, Item x tree → Tagged itemTag itemInner tree)
    (hread : ∀ x ∈ xs, ∀ tree e, Item x tree → Found tree e → read e = .ok x) :
    readSection sectionTag itemTag read cs = .ok xs := by
  cases hfound with
  | mk hshown =>
    have hall := forall_tagged hitems htagged
    have helements := found_elements hitem hshown fun tree htree hmem =>
      hitemInner ((hall tree htree).inside itemTag hmem)
    rw [List.filter_eq_self.2 fun tree htree => (hall tree htree).tagged] at helements
    rw [readSection, he]
    exact mapM_of_forall₂ hitems helements hread

theorem readSection_of_parts (hparts : Parts inner parts children)
    (h : ShownAll Blank children cs) {sectionTag : String} (hsection : IsName sectionTag)
    (hinner : sectionTag ∉ inner) {ws : List Char}
    (hmem : (sectionTag, [.element sectionTag ws items]) ∈ parts) (hitem : IsName itemTag)
    (hitemInner : itemTag ∉ itemInner) (hitems : List.Forall₂ Item xs items)
    (htagged : ∀ x tree, Item x tree → Tagged itemTag itemInner tree)
    (hread : ∀ x ∈ xs, ∀ tree e, Item x tree → Found tree e → read e = .ok x) :
    readSection sectionTag itemTag read cs = .ok xs := by
  obtain ⟨e, he, hfound⟩ :=
    element?_eq_some hsection h (hparts.not_mem_inside hinner) (hparts.filter_eq hmem)
  exact readSection_of_found he hfound hitem hitemInner hitems htagged hread

end Items

theorem readLanguages_of_parts (hparts : Parts inner parts children)
    (h : ShownAll Blank children cs) (hinner : "Languages" ∉ inner) {part : List Tree}
    (hmem : ("Languages", part) ∈ parts) {languages : List PackageLanguage}
    (hpart : LanguagesTree languages part) (hlanguages : ∀ l ∈ languages, l.IsCanonical)
    (model : String) :
    readSection "Languages" "Language" (readLanguage model) cs = .ok languages := by
  cases hpart with
  | omitted =>
    rw [readSection, element?_eq_none (by decide) h (hparts.not_mem_inside hinner)
      (hparts.filter_eq hmem)]
  | listed hws hitems =>
    exact readSection_of_parts hparts h (by decide) hinner hmem (by decide) List.not_mem_nil hitems
      (fun _ _ => LanguageTree.tagged)
      fun l hl _ _ htree he => readLanguage_of_found (hlanguages l hl) htree he model

theorem readModel_eq {e : Element} {id : String} (hid : childText? "ID" e.inner = some id) :
    readModel e = readSection "Languages" "Language" (readLanguage id) e.inner >>= fun languages =>
      .ok ⟨id, childText? "Name" e.inner, languages⟩ := by
  simp only [readModel, readSection, hid]
  cases element? "Languages" e.inner <;> rfl

theorem readModel_of_found {m : PackageModel} (hm : m.IsCanonical) {tree : Tree}
    (h : ModelTree m tree) {e : Element} (he : Found tree e) : readModel e = .ok m := by
  cases h with
  | mk hws hid hname hlanguages hperm =>
    cases he with
    | mk hshown =>
      have hparts := model_parts hid hname hlanguages hperm
      have hidText := childText?_of_parts hparts hshown (by decide) (by simp) (by simp) hid
        fun t ht => Option.some.inj ht ▸ hm.id
      have hnameText := childText?_of_parts hparts hshown (by decide) (by simp) (by simp) hname
        hm.name
      have hlist := readLanguages_of_parts hparts hshown (by simp) (by simp) hlanguages
        hm.languages m.id
      rw [readModel_eq hidText, hlist, ok_bind, hnameText]

/-! ### Reading projects -/

/-- The names of the elements inside the sections of a project. -/
def innerNames : List String :=
  ["Name", "Author", "Version", "Copyright", "WebSite", "Description", "File", "LexicalModel",
    "ID", "Languages", "Language"]

theorem project_parts {p : PackageProject} {info : Tree} (hinfo : InfoTree p.info info)
    {files models sections : List Tree} (hfiles : List.Forall₂ FileTree p.files files)
    (hmodels : List.Forall₂ ModelTree p.lexicalModels models) {ws ws' : List Char}
    (hperm : sections.Perm
      [info, .element "Files" ws files, .element "LexicalModels" ws' models]) :
    Parts innerNames [("Info", [info]), ("Files", [.element "Files" ws files]),
      ("LexicalModels", [.element "LexicalModels" ws' models])] sections := by
  have hfiles' := tagged_items hfiles (fun _ _ => FileTree.tagged) "Files" ws
  have hmodels' := tagged_items hmodels (fun _ _ => ModelTree.tagged) "LexicalModels" ws'
  refine ⟨by simp, ?_, by simpa using hperm⟩
  simp only [List.forall_mem_cons]
  exact ⟨part_singleton (hinfo.tagged.mono (by decide)),
    part_singleton (hfiles'.mono (by decide)),
    part_singleton (hmodels'.mono (by decide)), by simp⟩

theorem element?_package {sections : List Tree} (hparts : Parts innerNames parts sections)
    (hnames : "Package" ∉ parts.map Prod.fst) {ws : List Char}
    (h : ShownAll Blank [.element "Package" ws sections] cs) :
    ∃ package, element? "Package" cs = some package ∧ ShownAll Blank sections package.inner := by
  have htagged := hparts.tagged_element "Package" ws
  have hinside : ∀ tree ∈ [Tree.element "Package" ws sections], "Package" ∉ tree.inside := by
    intro tree htree hmem
    rw [List.mem_singleton.1 htree] at hmem
    rcases List.mem_append.1 (htagged.inside _ hmem) with hmem | hmem
    · exact hnames hmem
    · exact absurd hmem (by decide)
  have hfilter : [Tree.element "Package" ws sections].filter (Tree.hasTag "Package") =
      [.element "Package" ws sections] := by
    simp [Tree.hasTag]
  obtain ⟨package, hpackage, hfound⟩ := element?_eq_some (by decide) h hinside hfilter
  cases hfound with
  | mk hsections => exact ⟨_, hpackage, hsections⟩

/-- **The reader undoes every rendering of a project.** -/
theorem parse_of_renders {p : PackageProject} (hp : p.IsCanonical) {text : String}
    (h : Renders p text) : parse text = .ok p := by
  obtain ⟨tree, htree, hshown⟩ := h
  cases htree with
  | mk hws hinfo hws' hfiles hws'' hmodels hperm =>
    have hparts := project_parts hinfo hfiles hmodels hperm
    -- without its comments, the text shows the same tree
    obtain ⟨package, hpackage, hsections⟩ :=
      element?_package hparts (by simp) (stripComments_shownAll hshown)
    -- each section is found among the others by its name, which stands nowhere inside of them
    obtain ⟨e, he, hfound⟩ := element?_eq_some (by decide) hsections
      (hparts.not_mem_inside (by decide : "Info" ∉ innerNames)) (hparts.filter_eq (.head _))
    have hinfo' := readInfo_of_found hp.info hinfo hfound
    have hfiles' : readSection "Files" "File" readFile package.inner = .ok p.files :=
      readSection_of_parts hparts hsections (by decide) (by decide) (.tail _ (.head _))
        (by decide) (by decide) hfiles (fun _ _ => FileTree.tagged)
        fun f hf _ _ htree he => readFile_of_found (hp.files f hf) htree he
    have hmodels' : readSection "LexicalModels" "LexicalModel" readModel package.inner =
        .ok p.lexicalModels :=
      readSection_of_parts hparts hsections (by decide) (by decide) (.tail _ (.tail _ (.head _)))
        (by decide) (by decide) hmodels (fun _ _ => ModelTree.tagged)
        fun m hm _ _ htree he => readModel_of_found (hp.models m hm) htree he
    simp only [parse, hpackage, he, Option.map_some, Option.getD_some, hinfo', hfiles', hmodels',
      ok_bind]
    rfl

/-- An element that contains a text, shown with nothing around the text. -/
theorem shown_text {tag : String} (htag : IsName tag) {attributes : List Char}
    (h : IsAttributes attributes) (t : String) :
    Shown Gap (.element tag attributes [.text (escape t)])
      (openTag tag attributes ++ ([] ++ escape t ++ []) ++ closeTag tag) :=
  .element htag h (.cons .nil (.text fun h => (mem_escape h).1 rfl) (.nil .nil))

/-- A small project, whose name needs a reference and whose author has an address and no name. -/
def sample : PackageProject where
  info := { name := some "A&B", author := some ⟨"", some "a@b"⟩ }
  files := [⟨"a.js", ""⟩]
  lexicalModels := [⟨"a.en.b", none, [⟨"en", some "English"⟩]⟩]

/-- A rendering of it, with a tag in a comment and the sections out of order. -/
def sampleText : String :=
  "<Package><Files><File><Description/><Name>a.js</Name></File></Files><!--<Info>--> " ++
  "<Info><Author URL=\"mailto:a@b\"/><Name>A&amp;B</Name></Info>" ++
  "<LexicalModels><LexicalModel><ID>a.en.b</ID>" ++
  "<Languages><Language ID=\"en\">English</Language></Languages></LexicalModel>" ++
  "</LexicalModels></Package>"

theorem sample_isCanonical : sample.IsCanonical := by decide

/-- Appended texts as lists of characters, which the kernel evaluates faster than texts. -/
theorem append_eq_ofList {a b : String} {as bs : List Char} (ha : a = String.ofList as)
    (hb : b = String.ofList bs) : a ++ b = String.ofList (as ++ bs) := by
  rw [ha, hb, String.ofList_append]

theorem sampleText_renders : Renders sample sampleText := by
  have hblank : Blank [] := List.forall_mem_nil _
  have hspace : Blank [' '] := List.forall_mem_singleton.2 (by decide)
  have hurl : Attributed "URL" (some (mailLink "a@b")) _ :=
    .present (mailLink "a@b") (List.cons_ne_nil ' ' []) hspace hblank
  have htag : Attributed "ID" (some "en") _ :=
    .present "en" (List.cons_ne_nil ' ' []) hspace hblank
  have hinfo : InfoTree sample.info _ :=
    .mk hblank (.present "A&B" hblank) (.present ⟨"", some "a@b"⟩ hurl) .omitted .omitted .omitted
      .omitted (List.Perm.swap _ _ [])
  have hfile : FileTree ⟨"a.js", ""⟩ _ :=
    .mk hblank (.present "a.js" hblank) (.empty hblank) (List.Perm.swap _ _ [])
  have hmodel : ModelTree ⟨"a.en.b", none, [⟨"en", some "English"⟩]⟩ _ :=
    .mk hblank (.present "a.en.b" hblank) .omitted (.listed hblank (.cons (.mk htag) .nil))
      (.refl _)
  have hproject : ProjectTree sample _ :=
    .mk hblank hinfo hblank (.cons hfile .nil) hblank (.cons hmodel .nil) (List.Perm.swap _ _ _)
  -- how the tree is shown
  have hplain : IsAttributes [] := hblank.isAttributes
  have hauthor : Shown Gap (.element "Author" _ []) _ :=
    .empty (by decide) (hurl.isAttributes (by decide))
  have hinfo' : Shown Gap (.element "Info" [] [_, _]) _ :=
    .element (by decide) hplain (.cons .nil hauthor
      (.cons .nil (shown_text (by decide : IsName "Name") hplain "A&B") (.nil .nil)))
  have hdescription : Shown Gap (.element "Description" [] []) _ := .empty (by decide) hplain
  have hfile' : Shown Gap (.element "File" [] [_, _]) _ :=
    .element (by decide) hplain (.cons .nil hdescription
      (.cons .nil (shown_text (by decide : IsName "Name") hplain "a.js") (.nil .nil)))
  have hfiles : Shown Gap (.element "Files" [] [_]) _ :=
    .element (by decide) hplain (.cons .nil hfile' (.nil .nil))
  have hlanguage : Shown Gap (.element "Language" _ [.text (escape "English")]) _ :=
    shown_text (by decide) (htag.isAttributes (by decide)) "English"
  have hlanguages : Shown Gap (.element "Languages" [] [_]) _ :=
    .element (by decide) hplain (.cons .nil hlanguage (.nil .nil))
  have hmodel' : Shown Gap (.element "LexicalModel" [] [_, _]) _ :=
    .element (by decide) hplain
      (.cons .nil (shown_text (by decide : IsName "ID") hplain "a.en.b")
        (.cons .nil hlanguages (.nil .nil)))
  have hmodels : Shown Gap (.element "LexicalModels" [] [_]) _ :=
    .element (by decide) hplain (.cons .nil hmodel' (.nil .nil))
  have hgap : Gap _ := .comment (by decide : ¬commentClosing <:+: ['<', 'I', 'n', 'f', 'o', '>'])
    (.blank (by decide : Text.isBlank ' ' = true) .nil)
  have hshown : ShownAll Gap [.element "Package" [] _] _ :=
    .cons .nil (.element (by decide) hplain (.cons .nil hfiles (.cons hgap hinfo'
      (.cons .nil hmodels (.nil .nil))))) (.nil .nil)
  have hchars : sampleText = String.ofList _ :=
    append_eq_ofList (append_eq_ofList (append_eq_ofList (append_eq_ofList rfl rfl) rfl) rfl) rfl
  rw [Renders, hchars, String.toList_ofList]
  refine ⟨_, hproject, Eq.mp (congrArg (ShownAll Gap _) ?_) hshown⟩
  decide +kernel

theorem parse_sampleText : sample.IsCanonical ∧ Renders sample sampleText ∧
    parse sampleText = .ok sample :=
  ⟨sample_isCanonical, sampleText_renders, parse_of_renders sample_isCanonical sampleText_renders⟩

end PackageProject

end LexicalModel
