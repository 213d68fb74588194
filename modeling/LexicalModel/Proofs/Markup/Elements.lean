import LexicalModel.Proofs.Markup.Tree
import Mathlib.Data.List.Forall2

/-!
# Looking for elements in what is shown

An element is looked for by its name, character by character, and ends at the first closing tag of
that name.  This is no reading of the tree: an element of the same name further inside would end it
too early, and the names of tags may start with one another.  Where no element of the name stands
further inside, what is found is what the tree has.

* `Passes` : a text in which nothing of the element is found
* `passes_shownAll` : what shows trees without the name is such a text
* `Yields` : a text in which given elements are found
* `found_elements` : the elements found are those of the tree, in order
-/

namespace LexicalModel.Markup

/-! ### Texts without the element -/

/-- Neither a tag that opens nor one that closes the element `tag` is found in `cs`, whatever
follows it. -/
structure Passes (tag : String) (cs : List Char) : Prop where
  /-- No element is found. -/
  elements : ∀ rest, elementsFrom tag.toList 0 (cs ++ rest) = elementsFrom tag.toList 0 rest
  /-- No closing tag is found. -/
  closing : ∀ rest, untilClosing? tag.toList (cs ++ rest) =
    (untilClosing? tag.toList rest).map fun (inner, n) => (cs ++ inner, n)

theorem Passes.append {tag : String} {cs cs' : List Char} (h : Passes tag cs)
    (h' : Passes tag cs') : Passes tag (cs ++ cs') where
  elements rest := by rw [List.append_assoc, h.elements, h'.elements]
  closing rest := by
    rw [List.append_assoc, h.closing, h'.closing, Option.map_map]
    simp only [Function.comp_def, List.append_assoc]

theorem passes_nil (tag : String) : Passes tag [] where
  elements _ := rfl
  closing rest := by simp

/-- A character that does not start a tag of the element. -/
theorem passes_cons {tag : String} {c : Char} {cs : List Char} (h : Passes tag cs)
    (helement : ∀ rest, elementAt? tag.toList (c :: (cs ++ rest)) = none)
    (hclosing : ∀ rest, closingLength? tag.toList (c :: (cs ++ rest)) = none) :
    Passes tag (c :: cs) where
  elements rest := by
    rw [List.cons_append, elementsFrom]
    simp only [helement rest]
    exact h.elements rest
  closing rest := by
    rw [List.cons_append, untilClosing?, hclosing rest]
    simp only [h.closing rest, Option.map_map, Function.comp_def, List.cons_append]

theorem elementAt?_of_ne (tag : List Char) {c : Char} (h : c ≠ '<') (cs : List Char) :
    elementAt? tag (c :: cs) = none := by
  simp only [elementAt?, List.isPrefixOf?, beq_iff_eq, Ne.symm h, if_false]

theorem closingLength?_of_ne (tag : List Char) {c : Char} (h : c ≠ '<') (cs : List Char) :
    closingLength? tag (c :: cs) = none := by
  simp only [closingLength?, List.isPrefixOf?, beq_iff_eq, Ne.symm h, if_false]

theorem passes_of_not_mem (tag : String) {cs : List Char} (h : '<' ∉ cs) : Passes tag cs := by
  induction cs with
  | nil => exact passes_nil tag
  | cons c cs ih =>
    rw [List.mem_cons, not_or] at h
    exact passes_cons (ih h.2) (fun rest => elementAt?_of_ne _ (Ne.symm h.1) _)
      fun rest => closingLength?_of_ne _ (Ne.symm h.1) _

/-- A character that ends the name in a tag. -/
def EndsName (c : Char) : Prop := c = '>' ∨ c = '/' ∨ Text.isBlank c = true

instance : DecidablePred EndsName := fun c => inferInstanceAs (Decidable (c = '>' ∨ _))

theorem EndsName.not_mem {tag : String} (htag : IsName tag) {d : Char} (hd : EndsName d) :
    d ∉ tag.toList := by
  intro hmem
  obtain ⟨hspecial, hblank⟩ := htag.2 d hmem
  rcases hd with rfl | rfl | hd
  · exact hspecial (by decide)
  · exact hspecial (by decide)
  · rw [hblank] at hd
    cases hd

/-- Where a text starts with two names and the second one ends, the second one goes on after the
first one. -/
theorem name_continues {tag other : String} (htag : IsName tag) (hne : tag ≠ other) {d : Char}
    (hd : EndsName d) {rest more : List Char} (h : tag.toList ++ rest = other.toList ++ d :: more) :
    ∃ c cs, other.toList = tag.toList ++ c :: cs ∧ rest = c :: (cs ++ d :: more) := by
  rcases List.append_eq_append_iff.1 h with ⟨as, hother, hrest⟩ | ⟨bs, htag', hmore⟩
  · cases as with
    | nil =>
      rw [List.append_nil] at hother
      exact absurd (String.toList_inj.1 hother.symm) hne
    | cons c cs => exact ⟨c, cs, hother, by rw [hrest]; rfl⟩
  · cases bs with
    | nil =>
      rw [List.append_nil] at htag'
      exact absurd (String.toList_inj.1 htag') hne
    | cons c cs =>
      cases hmore
      exact absurd (htag' ▸ List.mem_append_right _ List.mem_cons_self) (hd.not_mem htag)

theorem elementAt?_of_not_front {tag cs : List Char} (h : ∀ rest, tag ++ rest ≠ cs) :
    elementAt? tag ('<' :: cs) = none := by
  have hnone : ('<' :: tag).isPrefixOf? ('<' :: cs) = none := by
    rw [Option.eq_none_iff_forall_ne_some]
    intro rest hrest
    rw [List.isPrefixOf?_eq_some_iff_append_eq] at hrest
    exact h rest (List.cons.inj hrest).2
  rw [elementAt?, hnone]

/-- A name that goes on is the name of another element. -/
theorem elementAt?_of_not_endsName (tag : List Char) {c : Char} (hc : ¬EndsName c)
    (more : List Char) : elementAt? tag ('<' :: (tag ++ c :: more)) = none := by
  simp only [EndsName, not_or, Bool.not_eq_true] at hc
  obtain ⟨hbracket, hslash, hblank⟩ := hc
  have hfront : ('<' :: tag).isPrefixOf? ('<' :: (tag ++ c :: more)) = some (c :: more) := by
    rw [List.isPrefixOf?_eq_some_iff_append_eq]
    rfl
  have hopening : ∀ segment, readOpening (c :: segment) = .other := by
    intro segment
    simp [readOpening, hblank, hslash]
  rw [elementAt?, hfront]
  dsimp only
  rw [List.takeWhile_cons_of_pos (by simpa using hbracket)]
  split
  · rfl
  · simp only [hopening]

theorem IsName.not_endsName {tag : String} (h : IsName tag) {c : Char} (hc : c ∈ tag.toList) :
    ¬EndsName c := fun hends => hends.not_mem h hc

theorem elementAt?_other {tag other : String} (htag : IsName tag) (hother : IsName other)
    (hne : tag ≠ other) {d : Char} (hd : EndsName d) (more : List Char) :
    elementAt? tag.toList ('<' :: (other.toList ++ d :: more)) = none := by
  by_cases hfront : ∃ rest, tag.toList ++ rest = other.toList ++ d :: more
  · obtain ⟨rest, hrest⟩ := hfront
    -- the longer name goes on where the shorter one would have to end
    obtain ⟨c, cs, hcs, rfl⟩ := name_continues htag hne hd hrest
    have hmem : c ∈ other.toList := by rw [hcs]; simp
    rw [← hrest]
    exact elementAt?_of_not_endsName tag.toList (hother.not_endsName hmem) _
  · exact elementAt?_of_not_front fun rest hrest => hfront ⟨rest, hrest⟩

theorem closingLength?_other {tag other : String} (htag : IsName tag) (hother : IsName other)
    (hne : tag ≠ other) (more : List Char) :
    closingLength? tag.toList ('<' :: '/' :: (other.toList ++ '>' :: more)) = none := by
  unfold closingLength?
  split
  · next rest hrest =>
    have happend := List.isPrefixOf?_eq_some_iff_append_eq.1 hrest
    obtain ⟨c, cs, hcs, rfl⟩ := name_continues htag hne (.inl rfl)
      (List.cons.inj (List.cons.inj happend).2).2
    have hmem : c ∈ other.toList := by rw [hcs]; simp
    obtain ⟨hspecial, hblank⟩ := hother.2 c hmem
    simp only [List.mem_cons, List.not_mem_nil, or_false, not_or] at hspecial
    dsimp only
    rw [List.takeWhile_cons_of_neg (by simp [hblank])]
    split
    · next h =>
      cases h
      exact absurd rfl hspecial.2.1
    · rfl
  · rfl

theorem passes_tag {tag other : String} (htag : IsName tag) (hother : IsName other)
    (hne : tag ≠ other) {d : Char} (hd : EndsName d) {more : List Char} (hmore : '<' ∉ d :: more) :
    Passes tag ('<' :: (other.toList ++ d :: more)) := by
  have hno : '<' ∉ other.toList ++ d :: more := by
    rw [List.mem_append, not_or]
    exact ⟨hother.not_mem, hmore⟩
  refine passes_cons (passes_of_not_mem tag hno) (fun rest => ?_) fun rest => ?_
  · rw [List.append_assoc, List.cons_append]
    exact elementAt?_other htag hother hne hd _
  · obtain ⟨c, cs, hc, hspecial, -⟩ := hother.head
    have hslash : '/' ≠ c := by
      rintro rfl
      simp at hspecial
    simp only [hc, List.cons_append, closingLength?, List.isPrefixOf?, beq_self_eq_true, if_true,
      beq_iff_eq, hslash, if_false]

theorem passes_closeTag {tag other : String} (htag : IsName tag) (hother : IsName other)
    (hne : tag ≠ other) : Passes tag (closeTag other) := by
  have hno : '<' ∉ '/' :: (other.toList ++ ['>']) := by simp [hother.not_mem]
  refine passes_cons (passes_of_not_mem tag hno) (fun rest => ?_) fun rest => ?_
  · obtain ⟨c, cs, hc, hspecial, -⟩ := htag.head
    have hslash : c ≠ '/' := by
      rintro rfl
      simp at hspecial
    simp only [hc, List.cons_append, elementAt?, List.isPrefixOf?, beq_self_eq_true, if_true,
      beq_iff_eq, hslash, if_false]
  · rw [List.cons_append, List.append_assoc]
    exact closingLength?_other htag hother hne rest

/-- The first character after the name in a tag, whose end is `last`. -/
theorem IsAttributes.head_append {attributes : List Char} (h : IsAttributes attributes)
    {last : Char} (hlast : EndsName last) (more : List Char) :
    ∃ d cs, attributes ++ last :: more = d :: cs ∧ EndsName d := by
  cases attributes with
  | nil => exact ⟨last, more, rfl, hlast⟩
  | cons c cs => exact ⟨c, cs ++ last :: more, rfl, .inr (.inr (h.head c rfl))⟩

theorem exists_openTag (tag : String) {attributes : List Char} (h : IsAttributes attributes) :
    ∃ d more, openTag tag attributes = '<' :: (tag.toList ++ d :: more) ∧ EndsName d ∧
      '<' ∉ d :: more := by
  obtain ⟨d, cs, hcs, hd⟩ := h.head_append (.inl rfl) []
  refine ⟨d, cs, by rw [openTag, hcs], hd, ?_⟩
  rw [← hcs]
  simp [h.not_mem]

theorem exists_emptyTag (tag : String) {attributes : List Char} (h : IsAttributes attributes) :
    ∃ d more, emptyTag tag attributes = '<' :: (tag.toList ++ d :: more) ∧ EndsName d ∧
      '<' ∉ d :: more := by
  obtain ⟨d, cs, hcs, hd⟩ := h.head_append (.inr (.inl rfl)) ['>']
  refine ⟨d, cs, by rw [emptyTag, hcs], hd, ?_⟩
  rw [← hcs]
  simp [h.not_mem]

theorem passes_openTag {tag other : String} (htag : IsName tag) (hother : IsName other)
    (hne : tag ≠ other) {attributes : List Char} (h : IsAttributes attributes) :
    Passes tag (openTag other attributes) := by
  obtain ⟨d, more, htext, hd, hmore⟩ := exists_openTag other h
  rw [htext]
  exact passes_tag htag hother hne hd hmore

theorem passes_emptyTag {tag other : String} (htag : IsName tag) (hother : IsName other)
    (hne : tag ≠ other) {attributes : List Char} (h : IsAttributes attributes) :
    Passes tag (emptyTag other attributes) := by
  obtain ⟨d, more, htext, hd, hmore⟩ := exists_emptyTag other h
  rw [htext]
  exact passes_tag htag hother hne hd hmore

/-! ### Trees without the element -/

mutual

/-- The names of the elements in a tree. -/
def Tree.names : Tree → List String
  | .text _ => []
  | .element tag _ children => tag :: namesAll children

/-- The names of the elements in trees. -/
def Tree.namesAll : List Tree → List String
  | [] => []
  | tree :: trees => tree.names ++ namesAll trees

end

theorem Tree.mem_namesAll {name : String} {trees : List Tree} :
    name ∈ namesAll trees ↔ ∃ tree ∈ trees, name ∈ tree.names := by
  induction trees with
  | nil => simp [namesAll]
  | cons tree trees ih => simp [namesAll, ih]

theorem Blank.not_mem {ws : List Char} (h : Blank ws) : '<' ∉ ws := fun hmem =>
  absurd (h '<' hmem) (by decide)

mutual

theorem passes_shown {tag : String} (htag : IsName tag) {tree : Tree} {cs : List Char}
    (h : Shown Blank tree cs) (hno : tag ∉ tree.names) : Passes tag cs := by
  cases h with
  | text h => exact passes_of_not_mem tag h
  | element hother hattributes h =>
    rw [Tree.names, List.mem_cons, not_or] at hno
    exact ((passes_openTag htag hother hno.1 hattributes).append
      (passes_shownAll htag h hno.2)).append (passes_closeTag htag hother hno.1)
  | empty hother hattributes =>
    rw [Tree.names, List.mem_cons, not_or] at hno
    exact passes_emptyTag htag hother hno.1 hattributes

theorem passes_shownAll {tag : String} (htag : IsName tag) {trees : List Tree} {cs : List Char}
    (h : ShownAll Blank trees cs) (hno : tag ∉ Tree.namesAll trees) : Passes tag cs := by
  cases h with
  | nil h => exact passes_of_not_mem tag h.not_mem
  | cons hws htree htrees =>
    rw [Tree.namesAll, List.mem_append, not_or] at hno
    exact ((passes_of_not_mem tag hws.not_mem).append (passes_shown htag htree hno.1)).append
      (passes_shownAll htag htrees hno.2)

end

/-! ### Finding elements -/

/-- The elements `es` of the name `tag` are found in `cs`, whatever follows it. -/
def Yields (tag : String) (cs : List Char) (es : List Element) : Prop :=
  ∀ rest, elementsFrom tag.toList 0 (cs ++ rest) = es ++ elementsFrom tag.toList 0 rest

theorem Yields.append {tag : String} {cs cs' : List Char} {es es' : List Element}
    (h : Yields tag cs es) (h' : Yields tag cs' es') : Yields tag (cs ++ cs') (es ++ es') := by
  intro rest
  rw [List.append_assoc, h, h', List.append_assoc]

theorem Passes.yields {tag : String} {cs : List Char} (h : Passes tag cs) : Yields tag cs [] :=
  h.elements

theorem Yields.elements_eq {tag : String} {cs : List Char} {es : List Element}
    (h : Yields tag cs es) : elements tag cs = es := by
  simpa [elements, elementsFrom] using h []

theorem elementsFrom_skip (tag cs rest : List Char) :
    elementsFrom tag cs.length (cs ++ rest) = elementsFrom tag 0 rest := by
  induction cs with
  | nil => rfl
  | cons c cs ih => exact ih

/-- An element in front of the text is found, and the search goes on after it. -/
theorem yields_of_elementAt? {tag : String} {c : Char} {cs : List Char} {e : Element}
    (h : ∀ rest, elementAt? tag.toList (c :: (cs ++ rest)) = some (e, cs.length + 1)) :
    Yields tag (c :: cs) [e] := by
  intro rest
  rw [List.cons_append, elementsFrom]
  simp only [h rest]
  rw [Nat.add_sub_cancel, elementsFrom_skip]
  rfl

theorem IsAttributes.bracket_not_mem {attributes : List Char} (h : IsAttributes attributes) :
    '>' ∉ attributes := fun hmem => (h.noBracket '>' hmem).2 rfl

theorem readOpening_attributes {attributes : List Char} (h : IsAttributes attributes) :
    readOpening attributes = .opened attributes := by
  cases attributes with
  | nil => rfl
  | cons c cs =>
    have hblank := h.head c rfl
    have hslash : c ≠ '/' := by
      rintro rfl
      exact absurd hblank (by decide)
    have hne : c :: cs ≠ ['/'] := fun he => hslash (List.cons.inj he).1
    simp only [readOpening, if_neg hne, hblank, if_true, if_neg h.last]

theorem readOpening_attributes_slash {attributes : List Char} (h : IsAttributes attributes) :
    readOpening (attributes ++ ['/']) = .closed attributes := by
  cases attributes with
  | nil => rfl
  | cons c cs =>
    have hblank := h.head c rfl
    have hne : c :: (cs ++ ['/']) ≠ ['/'] := fun he => by
      simpa using congrArg List.length he
    have hlast : (c :: (cs ++ ['/'])).getLast? = some '/' := by
      rw [← List.cons_append, List.getLast?_concat]
    simp only [List.cons_append, readOpening, if_neg hne, hblank, if_true, hlast]
    rw [← List.cons_append, List.dropLast_concat]

theorem closingLength?_self (tag : String) (rest : List Char) :
    closingLength? tag.toList (closeTag tag ++ rest) = some (tag.toList.length + 3) := by
  have hfront : ('<' :: '/' :: tag.toList).isPrefixOf? (closeTag tag ++ rest) =
      some ('>' :: rest) := by
    rw [List.isPrefixOf?_eq_some_iff_append_eq]
    simp [closeTag]
  have hspace : ('>' :: rest).takeWhile Text.isBlank = [] :=
    List.takeWhile_cons_of_neg (by decide)
  simp only [closingLength?, hfront, hspace]
  rfl

theorem untilClosing?_self {tag : String} {inner : List Char} (h : Passes tag inner)
    (rest : List Char) :
    untilClosing? tag.toList (inner ++ (closeTag tag ++ rest)) =
      some (inner, tag.toList.length + 3) := by
  have hfound : untilClosing? tag.toList (closeTag tag ++ rest) =
      some ([], tag.toList.length + 3) := by
    have hclosing := closingLength?_self tag rest
    rw [closeTag, List.cons_append] at hclosing ⊢
    rw [untilClosing?, hclosing]
  rw [h.closing, hfound]
  simp

/-- An element that is opened ends where its closing tag stands first. -/
theorem elementAt?_openTag {tag : String} {attributes : List Char}
    (hattributes : IsAttributes attributes) {body inner : List Char} {n : Nat}
    (h : untilClosing? tag.toList body = some (inner, n)) :
    elementAt? tag.toList (openTag tag attributes ++ body) =
      some (⟨attributes, inner⟩, (openTag tag attributes).length + inner.length + n) := by
  have hfront : ('<' :: tag.toList).isPrefixOf? (openTag tag attributes ++ body) =
      some (attributes ++ '>' :: body) := by
    rw [List.isPrefixOf?_eq_some_iff_append_eq]
    simp [openTag]
  have hlength : (openTag tag attributes).length = tag.toList.length + attributes.length + 2 := by
    simp only [openTag, List.length_append, List.length_cons, List.length_nil]
    omega
  rw [elementAt?, hfront]
  simp only [takeWhile_ne_append hattributes.bracket_not_mem, List.drop_left,
    readOpening_attributes hattributes, h, Option.map_some, hlength]

/-- An element is found if no closing tag of its name stands in it. -/
theorem yields_element {tag : String} {attributes inner : List Char}
    (hattributes : IsAttributes attributes) (hinner : Passes tag inner) :
    Yields tag (openTag tag attributes ++ inner ++ closeTag tag) [⟨attributes, inner⟩] := by
  rw [openTag, List.cons_append, List.cons_append]
  refine yields_of_elementAt? fun rest => ?_
  have hfound := elementAt?_openTag hattributes (untilClosing?_self hinner rest)
  have hlength : (openTag tag attributes).length + inner.length + (tag.toList.length + 3) =
      (tag.toList ++ (attributes ++ ['>']) ++ inner ++ closeTag tag).length + 1 := by
    simp only [openTag, closeTag, List.length_append, List.length_cons, List.length_nil]
    omega
  rw [hlength] at hfound
  simpa only [openTag, List.cons_append, List.append_assoc] using hfound

theorem yields_empty {tag : String} {attributes : List Char}
    (hattributes : IsAttributes attributes) :
    Yields tag (emptyTag tag attributes) [⟨attributes, []⟩] := by
  refine yields_of_elementAt? fun rest => ?_
  have hfront : ('<' :: tag.toList).isPrefixOf?
      ('<' :: (tag.toList ++ (attributes ++ ['/', '>']) ++ rest)) =
      some (attributes ++ ['/'] ++ '>' :: rest) := by
    rw [List.isPrefixOf?_eq_some_iff_append_eq]
    simp
  have hbracket : '>' ∉ attributes ++ ['/'] := by simp [hattributes.bracket_not_mem]
  have hlength : tag.toList.length + (attributes ++ ['/']).length + 2 =
      (tag.toList ++ (attributes ++ ['/', '>'])).length + 1 := by
    simp only [List.length_append, List.length_cons, List.length_nil]
    omega
  rw [elementAt?, hfront]
  simp only [takeWhile_ne_append hbracket, List.drop_left,
    readOpening_attributes_slash hattributes, hlength]

/-! ### Finding what is shown -/

namespace Tree

/-- The names of the elements inside an element. -/
def inside : Tree → List String
  | .text _ => []
  | .element _ _ children => namesAll children

/-- The tree is an element of the given name. -/
def hasTag (tag : String) : Tree → Bool
  | .text _ => false
  | .element other _ _ => other = tag

end Tree

/-- What is found of an element: its attributes, and a text that shows what it contains. -/
inductive Found : Tree → Element → Prop
  | mk {tag : String} {attributes inner : List Char} {children : List Tree} :
    ShownAll Blank children inner → Found (.element tag attributes children) ⟨attributes, inner⟩

theorem yields_shown {tag : String} (htag : IsName tag) {tree : Tree} {cs : List Char}
    (h : Shown Blank tree cs) (hinside : tag ∉ tree.inside) :
    ∃ es, Yields tag cs es ∧ List.Forall₂ Found ([tree].filter (Tree.hasTag tag)) es := by
  by_cases hself : tree.hasTag tag = true
  · rw [List.filter_cons_of_pos hself, List.filter_nil]
    cases h with
    | text h => cases hself
    | element _ hattributes h =>
      have hsame := of_decide_eq_true hself
      subst hsame
      exact ⟨_, yields_element hattributes (passes_shownAll htag h hinside),
        .cons (.mk h) .nil⟩
    | empty _ hattributes =>
      have hsame := of_decide_eq_true hself
      subst hsame
      exact ⟨_, yields_empty hattributes, .cons (.mk (.nil (by simp [Blank]))) .nil⟩
  · rw [List.filter_cons_of_neg hself, List.filter_nil]
    have hnames : tag ∉ tree.names := by
      cases tree with
      | text cs => exact List.not_mem_nil
      | element other attributes children =>
        rw [Tree.names, List.mem_cons, not_or]
        exact ⟨fun he => hself (decide_eq_true he.symm), hinside⟩
    exact ⟨[], (passes_shown htag h hnames).yields, .nil⟩

theorem yields_shownAll {tag : String} (htag : IsName tag) {trees : List Tree} {cs : List Char}
    (h : ShownAll Blank trees cs) (hinside : ∀ tree ∈ trees, tag ∉ tree.inside) :
    ∃ es, Yields tag cs es ∧ List.Forall₂ Found (trees.filter (Tree.hasTag tag)) es := by
  induction trees generalizing cs with
  | nil =>
    cases h with
    | nil h => exact ⟨[], (passes_of_not_mem tag h.not_mem).yields, .nil⟩
  | cons tree trees ih =>
    obtain ⟨hfirst, hrest⟩ := List.forall_mem_cons.1 hinside
    cases h with
    | cons hws htree htrees =>
      -- the search ends the first tree before it comes to the others
      obtain ⟨es, hes, hfound⟩ := yields_shown htag htree hfirst
      obtain ⟨es', hes', hfound'⟩ := ih htrees hrest
      refine ⟨es ++ es', ?_, ?_⟩
      · exact ((passes_of_not_mem tag hws.not_mem).yields.append hes).append hes'
      · rw [← List.singleton_append, List.filter_append]
        exact List.rel_append hfound hfound'

/-- **The elements found in what is shown are those that it shows**, in order, provided that none of
them stands further inside. -/
theorem found_elements {tag : String} (htag : IsName tag) {trees : List Tree} {cs : List Char}
    (h : ShownAll Blank trees cs) (hinside : ∀ tree ∈ trees, tag ∉ tree.inside) :
    List.Forall₂ Found (trees.filter (Tree.hasTag tag)) (elements tag cs) := by
  obtain ⟨es, hes, hfound⟩ := yields_shownAll htag h hinside
  rw [hes.elements_eq]
  exact hfound

theorem element?_eq_none {tag : String} (htag : IsName tag) {trees : List Tree} {cs : List Char}
    (h : ShownAll Blank trees cs) (hinside : ∀ tree ∈ trees, tag ∉ tree.inside)
    (hfilter : trees.filter (Tree.hasTag tag) = []) : element? tag cs = none := by
  have hfound := found_elements htag h hinside
  rw [hfilter, List.forall₂_nil_left_iff] at hfound
  rw [element?, hfound]
  rfl

theorem element?_eq_some {tag : String} (htag : IsName tag) {trees : List Tree} {cs : List Char}
    (h : ShownAll Blank trees cs) (hinside : ∀ tree ∈ trees, tag ∉ tree.inside) {tree : Tree}
    (hfilter : trees.filter (Tree.hasTag tag) = [tree]) :
    ∃ e, element? tag cs = some e ∧ Found tree e := by
  have hfound := found_elements htag h hinside
  rw [hfilter, List.forall₂_cons_left_iff] at hfound
  obtain ⟨e, es, he, -, hes⟩ := hfound
  exact ⟨e, by rw [element?, hes]; rfl, he⟩

end LexicalModel.Markup
