import LexicalModel.Proofs.Markup.Attribute

/-!
# Looking up an attribute among others

An attribute is looked for by its name, an equals sign and a quote, from where a word starts.  The
search does not tell names from values.  What it goes through are the pieces between quotes: the
fronts of the attributes and their values by turns.  A piece that ends like the front of the
attribute is taken for it, and what stands between the next two quotes for the value.

* `EndsInFront` : a piece that is taken for the front of the attribute
* `attributeFrom?_piece` : the search goes through one piece
* `WrittenAttribute` : an attribute with white space around its parts
* `WrittenAttribute.NamedLike`, `WrittenAttribute.ValuedLike` : the attributes that are mistaken for
  another
* `attribute?_exact_iff` : the lookup is right just if no mistaken attribute comes first
-/

namespace LexicalModel.Markup

/-- A name that is one word. -/
def IsWord (name : List Char) : Prop := name ≠ [] ∧ ∀ c ∈ name, Text.isWordChar c = true

-- Only the characters of the name are gone through.
instance (name : List Char) : Decidable (IsWord name) :=
  @instDecidableAnd _ _ inferInstance (List.decidableBAll _ _)

theorem IsWord.not_mem {name : List Char} (h : IsWord name) {c : Char}
    (hc : Text.isWordChar c = false) : c ∉ name := by
  intro hmem
  rw [h.2 c hmem] at hc
  cases hc

theorem IsWord.not_mem_of_isBlank {name : List Char} (h : IsWord name) {c : Char}
    (hc : Text.isBlank c = true) : c ∉ name := h.not_mem (isWordChar_of_isBlank hc)

/-! ### The search -/

/-- Whether the last character is one of a word, where `inWord` says so of the one before the
text. -/
def wordAfter (inWord : Bool) (cs : List Char) : Bool :=
  cs.foldl (fun _ c => Text.isWordChar c) inWord

/-- Where nothing starts, the search goes on. -/
theorem attributeFrom?_pass {name : List Char} {inWord : Bool} {cs tail : List Char}
    (h : ∀ front u, cs = front ++ u → u ≠ [] → wordAfter inWord front = false →
      attributeAt? name (u ++ tail) = none) :
    attributeFrom? name inWord (cs ++ tail) = attributeFrom? name (wordAfter inWord cs) tail := by
  induction cs generalizing inWord with
  | nil => rfl
  | cons c cs ih =>
    have hhere : (if inWord then none else attributeAt? name (c :: (cs ++ tail))) = none := by
      cases inWord with
      | true => rfl
      | false => exact h [] (c :: cs) rfl (by simp) rfl
    rw [List.cons_append, attributeFrom?, hhere]
    exact ih fun front u hu hne hword => h (c :: front) u (by rw [hu]; rfl) hne hword

/-- The search ends where the attribute is, if nothing else was found before. -/
theorem attributeFrom?_found {name : List Char} {inWord : Bool} {front : List Char} {c : Char}
    {rest value : List Char} (hword : wordAfter inWord front = false)
    (hat : attributeAt? name (c :: rest) = some value)
    (hbefore : ∀ x y, front = x ++ y → y ≠ [] →
      attributeAt? name (y ++ c :: rest) = none ∨ attributeAt? name (y ++ c :: rest) = some value) :
    attributeFrom? name inWord (front ++ c :: rest) = some value := by
  induction front generalizing inWord with
  | nil =>
    have hstart : inWord = false := hword
    rw [List.nil_append, attributeFrom?, hstart]
    simp only [Bool.false_eq_true, if_false, hat]
  | cons d front ih =>
    have hrest : attributeFrom? name (Text.isWordChar d) (front ++ c :: rest) = some value :=
      ih hword fun x y hxy hy => hbefore (d :: x) y (by rw [hxy]; rfl) hy
    rw [List.cons_append, attributeFrom?, hrest]
    cases inWord with
    | true => rfl
    | false =>
      rcases hbefore [] (d :: front) rfl (by simp) with hnone | hsome
      · rw [List.cons_append] at hnone
        simp only [Bool.false_eq_true, if_false, hnone]
      · rw [List.cons_append] at hsome
        simp only [Bool.false_eq_true, if_false, hsome]

/-! ### Pieces between quotes -/

/-- The front of an attribute: its name and an equals sign, with white space around it. -/
def IsFront (name cs : List Char) : Prop :=
  ∃ left right, cs = name ++ (left ++ '=' :: right) ∧ Blank left ∧ Blank right

/-- At the end of the text there is something with the property, and it starts where a word can. -/
def EndsIn (P : List Char → Prop) (cs : List Char) : Prop :=
  ∃ front u, cs = front ++ u ∧ P u ∧ ∀ c ∈ front.getLast?, Text.isWordChar c = false

theorem wordAfter_false_iff {front : List Char} :
    wordAfter false front = false ↔ ∀ c ∈ front.getLast?, Text.isWordChar c = false := by
  induction front using List.reverseRecOn with
  | nil => simp [wordAfter]
  | append_singleton front c => simp [wordAfter]

theorem dropWhile_blank_append {ws cs : List Char} (h : Blank ws)
    (hcs : ∀ c ∈ cs.head?, Text.isBlank c = false) : (ws ++ cs).dropWhile Text.isBlank = cs := by
  rw [List.dropWhile_append_of_pos h, dropWhile_of_head hcs]

/-- White space in front of a quote is skipped up to the quote or something before it. -/
theorem exists_dropWhile_quote (cs rest : List Char) : ∃ ws more, cs = ws ++ more ∧ Blank ws ∧
    (cs ++ '"' :: rest).dropWhile Text.isBlank = more ++ '"' :: rest := by
  have hws : Blank (cs.takeWhile Text.isBlank) := fun c hc => List.mem_takeWhile_imp hc
  have hcs : cs.takeWhile Text.isBlank ++ cs.dropWhile Text.isBlank = cs :=
    List.takeWhile_append_dropWhile
  refine ⟨cs.takeWhile Text.isBlank, cs.dropWhile Text.isBlank, hcs.symm, hws, ?_⟩
  have hhead : ∀ c ∈ (cs.dropWhile Text.isBlank ++ '"' :: rest).head?, Text.isBlank c = false := by
    intro c hc
    have hstop := List.head?_dropWhile_not Text.isBlank cs
    cases hmore : cs.dropWhile Text.isBlank with
    | nil =>
      rw [hmore] at hc
      cases hc
      decide
    | cons d more =>
      rw [hmore] at hc hstop
      cases hc
      exact hstop
  have hskip := dropWhile_blank_append hws hhead
  rwa [← List.append_assoc, hcs] at hskip

/-- The front of the attribute is found if another quote follows. -/
theorem attributeAt?_of_isFront {name u : List Char} (h : IsFront name u) (rest : List Char) :
    attributeAt? name (u ++ '"' :: rest) =
      if '"' ∈ rest then some (rest.takeWhile (· ≠ '"')) else none := by
  obtain ⟨left, right, rfl, hleft, hright⟩ := h
  have hname : name.isPrefixOf? (name ++ (left ++ '=' :: right) ++ '"' :: rest) =
      some (left ++ '=' :: (right ++ '"' :: rest)) := by
    rw [List.isPrefixOf?_eq_some_iff_append_eq]
    simp
  have hequals : (left ++ '=' :: (right ++ '"' :: rest)).dropWhile Text.isBlank =
      '=' :: (right ++ '"' :: rest) :=
    dropWhile_blank_append hleft fun c hc => by cases hc; decide
  have hquote : (right ++ '"' :: rest).dropWhile Text.isBlank = '"' :: rest :=
    dropWhile_blank_append hright fun c hc => by cases hc; decide
  simp only [attributeAt?, hname, hequals, hquote]

/-- What is found in front of a quote is the front of the attribute. -/
theorem isFront_of_attributeAt? {name u rest value : List Char} (hname : '"' ∉ name)
    (hu : '"' ∉ u) (h : attributeAt? name (u ++ '"' :: rest) = some value) : IsFront name u := by
  unfold attributeAt? at h
  split at h
  · cases h
  · next after hafter =>
    have happend := List.isPrefixOf?_eq_some_iff_append_eq.1 hafter
    -- the name does not go on over the quote
    obtain ⟨more, rfl, rfl⟩ : ∃ more, u = name ++ more ∧ after = more ++ '"' :: rest := by
      rcases List.append_eq_append_iff.1 happend with ⟨more, hmore, hrest⟩ | ⟨more, hmore, hrest⟩
      · exact ⟨more, hmore, hrest⟩
      · cases more with
        | nil => exact ⟨[], by simpa using hmore.symm, by simpa using hrest.symm⟩
        | cons d more =>
          cases hrest
          exact absurd (hmore ▸ List.mem_append_right u List.mem_cons_self) hname
    obtain ⟨left, more, rfl, hleft, hequals⟩ := exists_dropWhile_quote more rest
    rw [hequals] at h
    cases more with
    | nil => cases h
    | cons d more =>
      rw [List.cons_append] at h
      split at h
      · next after hafter =>
        cases hafter
        obtain ⟨right, more, rfl, hright, hquote⟩ := exists_dropWhile_quote more rest
        rw [hquote] at h
        cases more with
        | nil =>
          rw [List.append_nil]
          exact ⟨left, right, rfl, hleft, hright⟩
        | cons e more =>
          rw [List.cons_append] at h
          split at h
          · next after hafter =>
            cases hafter
            simp at hu
          · cases h
      · cases h

/-- **The search goes through a piece in front of a quote.**  If the piece ends in the front of the
attribute, what stands between this quote and the next one is found; else the search goes on after
the quote. -/
theorem attributeFrom?_piece {name : List Char} (hname : IsWord name) {piece : List Char}
    (hpiece : '"' ∉ piece) (rest : List Char) :
    (EndsIn (IsFront name) piece → '"' ∈ rest →
      attributeFrom? name false (piece ++ '"' :: rest) = some (rest.takeWhile (· ≠ '"'))) ∧
    (¬(EndsIn (IsFront name) piece ∧ '"' ∈ rest) →
      attributeFrom? name false (piece ++ '"' :: rest) = attributeFrom? name false rest) := by
  have hquote : '"' ∉ name := hname.not_mem (by decide)
  constructor
  · rintro ⟨front, u, rfl, hu, hfront⟩ hrest
    have hat : ∀ {u : List Char}, IsFront name u →
        attributeAt? name (u ++ '"' :: rest) = some (rest.takeWhile (· ≠ '"')) := by
      intro u hu
      rw [attributeAt?_of_isFront hu, if_pos hrest]
    have hne : u ≠ [] := by
      rintro rfl
      obtain ⟨left, right, heq, -⟩ := hu
      exact hname.1 (List.append_eq_nil_iff.1 heq.symm).1
    obtain ⟨c, u, rfl⟩ := List.exists_cons_of_ne_nil hne
    rw [List.append_assoc]
    refine attributeFrom?_found (wordAfter_false_iff.2 hfront) (hat hu) ?_
    -- what is found earlier in the piece is the same
    rintro x y rfl -
    rw [List.append_assoc, List.mem_append, not_or] at hpiece
    cases hyat : attributeAt? name (y ++ (c :: u) ++ '"' :: rest) with
    | none =>
      rw [List.append_assoc] at hyat
      exact .inl hyat
    | some value =>
      have hy := hat (isFront_of_attributeAt? hquote hpiece.2 hyat)
      rw [List.append_assoc] at hy
      exact .inr hy
  · intro hno
    have hpass : attributeFrom? name false (piece ++ ['"'] ++ rest) =
        attributeFrom? name (wordAfter false (piece ++ ['"'])) rest := by
      refine attributeFrom?_pass fun front u hsplit hne hword => ?_
      rcases List.eq_nil_or_concat u with rfl | ⟨u, last, rfl⟩
      · exact absurd rfl hne
      · rw [List.concat_eq_append, ← List.append_assoc] at hsplit
        obtain ⟨rfl, hlast⟩ := List.append_inj' hsplit rfl
        cases hlast
        rw [List.concat_eq_append, List.append_assoc, List.singleton_append]
        rw [List.mem_append, not_or] at hpiece
        by_contra hsome
        obtain ⟨value, hvalue⟩ := Option.ne_none_iff_exists'.1 hsome
        have hu := isFront_of_attributeAt? hquote hpiece.2 hvalue
        rw [attributeAt?_of_isFront hu] at hsome
        refine hno ⟨⟨front, u, rfl, hu, wordAfter_false_iff.1 hword⟩, ?_⟩
        by_contra hrest
        exact hsome (if_neg hrest)
    have hafter : wordAfter false (piece ++ ['"']) = false := by
      rw [wordAfter, List.foldl_append]
      exact (by decide : Text.isWordChar '"' = false)
    rw [hafter, List.append_assoc] at hpass
    exact hpass

/-! ### Written attributes -/

/-- The name of an attribute: it is not empty, and ends at white space or the equals sign. -/
def IsAttributeName (name : String) : Prop :=
  name.toList ≠ [] ∧ ∀ c ∈ name.toList, c ∉ ['=', '"'] ∧ Text.isBlank c = false

instance (name : String) : Decidable (IsAttributeName name) :=
  @instDecidableAnd _ _ inferInstance (List.decidableBAll _ _)

/-- An attribute as it is written, with white space in front of it and around the equals sign. -/
structure WrittenAttribute where
  /-- The name. -/
  name : String
  /-- What stands between the quotes. -/
  value : List Char
  /-- White space in front of the name. -/
  gap : List Char
  /-- White space in front of the equals sign. -/
  left : List Char
  /-- White space after the equals sign. -/
  right : List Char
  /-- The name can be told from what follows. -/
  isName : IsAttributeName name
  /-- A value ends at a quote. -/
  isValue : '"' ∉ value
  /-- White space. -/
  blank : Blank gap ∧ Blank left ∧ Blank right

namespace WrittenAttribute

variable {name : List Char}

/-- What stands in front of the value. -/
def front (a : WrittenAttribute) : List Char :=
  a.gap ++ (a.name.toList ++ (a.left ++ '=' :: a.right))

/-- The attribute as it stands in a tag. -/
def text (a : WrittenAttribute) : List Char := a.front ++ '"' :: (a.value ++ ['"'])

/-- Attributes one after the other. -/
def textAll (as : List WrittenAttribute) : List Char := as.flatMap text

theorem equals_not_mem_name (a : WrittenAttribute) : '=' ∉ a.name.toList := fun hmem =>
  (a.isName.2 _ hmem).1 (by decide)

theorem quote_not_mem_name (a : WrittenAttribute) : '"' ∉ a.name.toList := fun hmem =>
  (a.isName.2 _ hmem).1 (by decide)

theorem not_mem_of_blank {ws : List Char} (h : Blank ws) {c : Char} (hc : Text.isBlank c = false) :
    c ∉ ws := fun hmem => isBlank_ne (h c hmem) hc rfl

theorem quote_not_mem_front (a : WrittenAttribute) : '"' ∉ a.front := by
  obtain ⟨hgap, hleft, hright⟩ := a.blank
  have hquote : Text.isBlank '"' = false := by decide
  simp [front, not_mem_of_blank hgap hquote, not_mem_of_blank hleft hquote,
    not_mem_of_blank hright hquote, a.quote_not_mem_name]

/-- What stands in front of white space at the end is told by where the white space starts. -/
theorem eq_of_append_blank {xs ys ws ws' : List Char} (hws : Blank ws) (hws' : Blank ws')
    (hxs : ∀ c ∈ xs.getLast?, Text.isBlank c = false)
    (hys : ∀ c ∈ ys.getLast?, Text.isBlank c = false) (h : xs ++ ws = ys ++ ws') : xs = ys := by
  have hdrop : ∀ {zs vs : List Char}, Blank vs → (∀ c ∈ zs.getLast?, Text.isBlank c = false) →
      (zs ++ vs).reverse.dropWhile Text.isBlank = zs.reverse := by
    intro zs vs hvs hzs
    rw [List.reverse_append]
    refine dropWhile_blank_append (fun c hc => hvs c (List.mem_reverse.1 hc)) ?_
    rwa [List.head?_reverse]
  refine List.reverse_injective ?_
  rw [← hdrop hws hxs, h, hdrop hws' hys]

/-- **The front of an attribute is taken for that of another** if its name ends in the other name,
and a word can start there. -/
theorem endsIn_front_iff (hname : IsWord name) (a : WrittenAttribute) :
    EndsIn (IsFront name) a.front ↔ EndsIn (· = name) a.name.toList := by
  obtain ⟨hgap, hleft, hright⟩ := a.blank
  have hequals : Text.isBlank '=' = false := by decide
  constructor
  · rintro ⟨front, u, hfront, ⟨left, right, rfl, hleft', hright'⟩, hword⟩
    -- there is one equals sign, so both sides are the same up to there
    have hsides : a.gap ++ (a.name.toList ++ a.left) ++ '=' :: a.right =
        front ++ (name ++ left) ++ '=' :: right := by
      simpa [WrittenAttribute.front] using hfront
    have hno : '=' ∉ a.gap ++ (a.name.toList ++ a.left) := by
      simp [not_mem_of_blank hgap hequals, not_mem_of_blank hleft hequals, a.equals_not_mem_name]
    have hnames :=
      ((List.append_cons_inj_of_notMem hno (not_mem_of_blank hright hequals)).1 hsides).1
    rw [← List.append_assoc, ← List.append_assoc] at hnames
    have hends : a.gap ++ a.name.toList = front ++ name := by
      refine eq_of_append_blank hleft hleft' ?_ ?_ hnames
      · intro c hc
        rw [List.getLast?_append_of_ne_nil _ a.isName.1] at hc
        exact (a.isName.2 c (List.mem_of_getLast? hc)).2
      · intro c hc
        rw [List.getLast?_append_of_ne_nil _ hname.1] at hc
        rw [Bool.eq_false_iff]
        exact fun hblank => hname.not_mem_of_isBlank hblank (List.mem_of_getLast? hc)
    rcases List.append_eq_append_iff.1 hends with ⟨more, rfl, hmore⟩ | ⟨more, hgap', hmore⟩
    · refine ⟨more, name, hmore, rfl, fun c hc => hword c ?_⟩
      rw [List.getLast?_append, Option.mem_def.1 hc]
      rfl
    · cases more with
      | nil => exact ⟨[], name, by simpa using hmore.symm, rfl, by simp⟩
      | cons d more =>
        -- no word reaches into the white space
        have hd : Text.isBlank d = true := hgap d (by rw [hgap']; simp)
        exact absurd (hmore ▸ List.mem_cons_self) (hname.not_mem_of_isBlank hd)
  · rintro ⟨front, u, hfront, rfl, hword⟩
    refine ⟨a.gap ++ front, u ++ (a.left ++ '=' :: a.right), ?_,
      ⟨a.left, a.right, rfl, hleft, hright⟩, ?_⟩
    · simp [WrittenAttribute.front, hfront]
    · -- in front of the name there is white space
      intro c hc
      rw [List.getLast?_append] at hc
      cases hlast : front.getLast? with
      | some d =>
        rw [hlast] at hc
        cases hc
        exact hword _ hlast
      | none =>
        rw [hlast, Option.none_or] at hc
        exact isWordChar_of_isBlank (hgap c (List.mem_of_getLast? hc))

/-! ### Lookup -/

theorem text_append (a : WrittenAttribute) (rest : List Char) :
    a.text ++ rest = a.front ++ '"' :: (a.value ++ '"' :: rest) := by
  simp [text]

section Step

variable {a : WrittenAttribute}

/-- An attribute whose name ends in the one looked for gives its value. -/
theorem attributeFrom?_named (hname : IsWord name) (h : EndsIn (· = name) a.name.toList)
    (rest : List Char) : attributeFrom? name false (a.text ++ rest) = some a.value := by
  have hfront := (a.endsIn_front_iff hname).2 h
  have hpiece := attributeFrom?_piece hname a.quote_not_mem_front (a.value ++ '"' :: rest)
  rw [text_append, hpiece.1 hfront (by simp), takeWhile_ne_append a.isValue]

theorem attributeFrom?_unnamed (hname : IsWord name) (h : ¬EndsIn (· = name) a.name.toList)
    (rest : List Char) : attributeFrom? name false (a.text ++ rest) =
      attributeFrom? name false (a.value ++ '"' :: rest) := by
  have hpiece := attributeFrom?_piece hname a.quote_not_mem_front (a.value ++ '"' :: rest)
  rw [text_append]
  exact hpiece.2 fun hboth => h ((a.endsIn_front_iff hname).1 hboth.1)

/-- An attribute whose value ends like the front of the one looked for hands the text up to the next
quote for its value. -/
theorem attributeFrom?_valued (hname : IsWord name) (h : ¬EndsIn (· = name) a.name.toList)
    (hvalue : EndsIn (IsFront name) a.value) {rest : List Char} (hrest : '"' ∈ rest) :
    attributeFrom? name false (a.text ++ rest) = some (rest.takeWhile (· ≠ '"')) := by
  rw [attributeFrom?_unnamed hname h]
  exact (attributeFrom?_piece hname a.isValue rest).1 hvalue hrest

/-- Any other attribute is passed. -/
theorem attributeFrom?_other (hname : IsWord name) (h : ¬EndsIn (· = name) a.name.toList)
    {rest : List Char} (hvalue : ¬(EndsIn (IsFront name) a.value ∧ '"' ∈ rest)) :
    attributeFrom? name false (a.text ++ rest) = attributeFrom? name false rest := by
  rw [attributeFrom?_unnamed hname h]
  exact (attributeFrom?_piece hname a.isValue rest).2 hvalue

end Step

theorem textAll_cons_append (a : WrittenAttribute) (as : List WrittenAttribute) (rest : List Char) :
    textAll (a :: as) ++ rest = a.text ++ (textAll as ++ rest) := by
  simp [textAll]

/-- Attributes that are not mistaken for the one looked for are passed. -/
theorem attributeFrom?_textAll (hname : IsWord name) {as : List WrittenAttribute}
    (h : ∀ a ∈ as, ¬EndsIn (· = name) a.name.toList ∧ ¬EndsIn (IsFront name) a.value)
    (rest : List Char) :
    attributeFrom? name false (textAll as ++ rest) = attributeFrom? name false rest := by
  induction as with
  | nil => rfl
  | cons a as ih =>
    obtain ⟨ha, has⟩ := List.forall_mem_cons.1 h
    rw [textAll_cons_append, attributeFrom?_other hname ha.1 fun hboth => ha.2 hboth.1, ih has]

/-- The first piece of attributes and a piece after them. -/
theorem exists_first_piece (as : List WrittenAttribute) {piece : List Char} (h : '"' ∉ piece) :
    ∃ first, '"' ∉ first ∧ ∀ rest, ∃ more,
      textAll as ++ (piece ++ '"' :: rest) = first ++ '"' :: more := by
  cases as with
  | nil => exact ⟨piece, h, fun rest => ⟨rest, rfl⟩⟩
  | cons a as =>
    refine ⟨a.front, a.quote_not_mem_front, fun rest => ?_⟩
    exact ⟨a.value ++ '"' :: (textAll as ++ (piece ++ '"' :: rest)), by
      rw [textAll_cons_append, text_append]⟩

/-- Once an attribute is mistaken, what is found does not depend on what stands after the quote of a
later one. -/
theorem exists_mistaken (hname : IsWord name) {as : List WrittenAttribute}
    (h : ¬∀ a ∈ as, ¬EndsIn (· = name) a.name.toList ∧ ¬EndsIn (IsFront name) a.value)
    {piece : List Char} (hpiece : '"' ∉ piece) :
    ∃ found, ∀ rest, attributeFrom? name false (textAll as ++ (piece ++ '"' :: rest)) =
      some found := by
  induction as with
  | nil => simp at h
  | cons a as ih =>
    by_cases hnamed : EndsIn (· = name) a.name.toList
    · refine ⟨a.value, fun rest => ?_⟩
      rw [textAll_cons_append, attributeFrom?_named hname hnamed]
    · by_cases hvalued : EndsIn (IsFront name) a.value
      · obtain ⟨first, hfirst, hmore⟩ := exists_first_piece as hpiece
        refine ⟨first, fun rest => ?_⟩
        obtain ⟨more, hmore⟩ := hmore rest
        rw [textAll_cons_append, hmore,
          attributeFrom?_valued hname hnamed hvalued (by simp), takeWhile_ne_append hfirst]
      · obtain ⟨found, hfound⟩ := ih fun has =>
          h (List.forall_mem_cons.2 ⟨⟨hnamed, hvalued⟩, has⟩)
        refine ⟨found, fun rest => ?_⟩
        rw [textAll_cons_append, attributeFrom?_other hname hnamed fun hboth => hvalued hboth.1]
        exact hfound rest

theorem quote_mem_textAll_iff {as : List WrittenAttribute} {ws : List Char} (hws : Blank ws) :
    '"' ∈ textAll as ++ ws ↔ as ≠ [] := by
  cases as with
  | nil => simpa [textAll] using not_mem_of_blank hws (by decide : Text.isBlank '"' = false)
  | cons a as => simp [textAll, text]

/-- Nothing is found just if no name ends in the one looked for, and no value but the last like its
front. -/
theorem attributeFrom?_eq_none_iff (hname : IsWord name) {as : List WrittenAttribute}
    {ws : List Char} (hws : Blank ws) :
    attributeFrom? name false (textAll as ++ ws) = none ↔
      (∀ a ∈ as, ¬EndsIn (· = name) a.name.toList) ∧
        ∀ a ∈ as.dropLast, ¬EndsIn (IsFront name) a.value := by
  induction as with
  | nil =>
    have hhead : ∀ c ∈ name.head?, Text.isBlank c = false := fun c hc => by
      rw [Bool.eq_false_iff]
      exact fun hblank => hname.not_mem_of_isBlank hblank (List.mem_of_head? hc)
    have hnone := attributeFrom?_blank hws hhead hname.1 []
    rw [List.append_nil] at hnone
    simp [textAll, hnone, attributeFrom?]
  | cons a as ih =>
    rw [textAll_cons_append]
    by_cases hnamed : EndsIn (· = name) a.name.toList
    · simp [attributeFrom?_named hname hnamed, hnamed]
    · by_cases hvalued : EndsIn (IsFront name) a.value ∧ as ≠ []
      · have hquote := (quote_mem_textAll_iff hws).2 hvalued.2
        obtain ⟨b, bs, rfl⟩ := List.exists_cons_of_ne_nil hvalued.2
        simp [attributeFrom?_valued hname hnamed hvalued.1 hquote, hvalued.1]
      · rw [attributeFrom?_other hname hnamed
          fun hboth => hvalued ⟨hboth.1, (quote_mem_textAll_iff hws).1 hboth.2⟩, ih]
        cases as with
        | nil => simp [hnamed]
        | cons b bs =>
          have hvalue : ¬EndsIn (IsFront name) a.value := fun h => hvalued ⟨h, by simp⟩
          simp [hnamed, hvalue]

/-- The name is another one but ends in `name`, and a word can start there. -/
def NamedLike (name : String) (a : WrittenAttribute) : Prop :=
  a.name ≠ name ∧ EndsIn (· = name.toList) a.name.toList

/-- The value ends like the front of the attribute `name`. -/
def ValuedLike (name : String) (a : WrittenAttribute) : Prop :=
  EndsIn (IsFront name.toList) a.value

theorem IsWord.isAttributeName {name : String} (h : IsWord name.toList) : IsAttributeName name := by
  refine ⟨h.1, fun c hc => ⟨fun hspecial => ?_, ?_⟩⟩
  · rcases List.mem_cons.1 hspecial with rfl | hspecial
    · exact h.not_mem (by decide) hc
    · rw [List.mem_singleton.1 hspecial] at hc
      exact h.not_mem (by decide) hc
  · rw [Bool.eq_false_iff]
    exact fun hblank => h.not_mem_of_isBlank hblank hc

theorem blank_spaced : Blank [' '] ∧ Blank [] ∧ Blank [] :=
  ⟨List.forall_mem_singleton.2 (by decide), List.forall_mem_nil _, List.forall_mem_nil _⟩

/-- An attribute with a blank in front and nothing around the equals sign. -/
def spaced (name : String) (value : List Char) (hname : IsAttributeName name)
    (hvalue : '"' ∉ value) : WrittenAttribute :=
  ⟨name, value, [' '], [], [], hname, hvalue, blank_spaced⟩

theorem namedLike_iff {name : String} {a : WrittenAttribute} (h : a.name ≠ name) :
    a.NamedLike name ↔ EndsIn (· = name.toList) a.name.toList :=
  ⟨And.right, fun hends => ⟨h, hends⟩⟩

/-- **When the lookup of an attribute finds exactly that attribute.**  Let none of the attributes in
front have the name.  The attribute of that name after them is found, whatever its value, just if
none of them is mistaken for it, by its name or by its value.  Without such an attribute nothing is
found just if none of their names is mistaken for it and no value but the last one. -/
theorem attribute?_exact_iff {name : String} (hname : IsWord name.toList)
    {before : List WrittenAttribute} (hbefore : ∀ a ∈ before, a.name ≠ name)
    (after : List WrittenAttribute) {ws : List Char} (hws : Blank ws) :
    ((∀ b : WrittenAttribute, b.name = name →
        attribute? name (textAll (before ++ b :: after) ++ ws) =
          some (String.ofList (unescape b.value))) ↔
      ∀ a ∈ before, ¬a.NamedLike name ∧ ¬a.ValuedLike name) ∧
    (attribute? name (textAll before ++ ws) = none ↔
      (∀ a ∈ before, ¬a.NamedLike name) ∧ ∀ a ∈ before.dropLast, ¬a.ValuedLike name) := by
  have hlike : ∀ a ∈ before, (a.NamedLike name ↔ EndsIn (· = name.toList) a.name.toList) :=
    fun a ha => namedLike_iff (hbefore a ha)
  have htext : ∀ b, textAll (before ++ b :: after) ++ ws =
      textAll before ++ (b.text ++ (textAll after ++ ws)) := fun b => by
    simp [textAll]
  refine ⟨⟨?_, ?_⟩, ?_⟩
  · intro hfound
    by_contra hmistaken
    have hfirst : ¬∀ a ∈ before, ¬EndsIn (· = name.toList) a.name.toList ∧
        ¬EndsIn (IsFront name.toList) a.value := fun hclean =>
      hmistaken fun a ha => ⟨fun h => (hclean a ha).1 ((hlike a ha).1 h), (hclean a ha).2⟩
    have hword := IsWord.isAttributeName hname
    -- a mistaken attribute hides the value of the one looked for
    have hquote := (spaced name [] hword List.not_mem_nil).quote_not_mem_front
    obtain ⟨found, hmistaken'⟩ := exists_mistaken hname hfirst hquote
    have hsame : ∀ value hvalue, attribute? name
        (textAll (before ++ spaced name value hword hvalue :: after) ++ ws) =
          some (String.ofList (unescape found)) := by
      intro value hvalue
      rw [attribute?, htext, text_append]
      exact congrArg (Option.map fun v => String.ofList (unescape v)) (hmistaken' _)
    have hempty := (hsame [] List.not_mem_nil).symm.trans (hfound _ rfl)
    have hletter := (hsame ['x'] (by decide)).symm.trans (hfound _ rfl)
    have hne : some (String.ofList (unescape [])) ≠ some (String.ofList (unescape ['x'])) := by
      decide
    exact hne (hempty.symm.trans hletter)
  · intro hclean b hb
    have hpassed : ∀ a ∈ before, ¬EndsIn (· = name.toList) a.name.toList ∧
        ¬EndsIn (IsFront name.toList) a.value := fun a ha =>
      ⟨fun h => (hclean a ha).1 ((hlike a ha).2 h), (hclean a ha).2⟩
    have hnamed : EndsIn (· = name.toList) b.name.toList := ⟨[], name.toList, by rw [hb]; rfl, rfl,
      by simp⟩
    rw [attribute?, htext, attributeFrom?_textAll hname hpassed, attributeFrom?_named hname hnamed,
      Option.map_some]
  · rw [attribute?, Option.map_eq_none_iff, attributeFrom?_eq_none_iff hname hws]
    exact and_congr (forall₂_congr fun a ha => not_congr (hlike a ha).symm) Iff.rfl

/-- An attribute whose name ends in the one looked for, but inside a word, and one whose value has
the name and an equals sign in it, but not at its end. -/
theorem attribute?_among_similar :
    IsWord "ID".toList ∧
    attribute? "ID" " UUID=\"x\" Note=\"ID = y\" ID=\"en\" xml:ID=\"z\"".toList = some "en" := by
  have hname : IsWord "ID".toList := by decide +kernel
  have hblank : Blank [] := List.forall_mem_nil _
  -- the two attributes in front are not mistaken for it, since nothing is found among them
  have hothers : ∀ a ∈ [spaced "UUID" ['x'] (by decide) (by decide),
      spaced "Note" "ID = y".toList (by decide) (by decide),
      spaced "End" [] (by decide) (by decide)], a.name ≠ "ID" := by
    simp [spaced]
  have hclean := (attribute?_exact_iff hname hothers [] hblank).2.1 (by decide +kernel)
  have hfound := (attribute?_exact_iff hname
    (fun a ha => hothers a (List.dropLast_subset _ ha))
    [spaced "xml:ID" ['z'] (by decide) (by decide)] hblank).1.2
    (fun a ha => ⟨hclean.1 a (List.dropLast_subset _ ha), hclean.2 a ha⟩)
    (spaced "ID" "en".toList (by decide) (by decide)) rfl
  exact ⟨hname, hfound⟩

/-- **An attribute with a longer name is taken for the one looked for**, although one of just that
name is there; and so is an attribute whose value ends like the front of it. -/
theorem attribute?_takes_another :
    attribute? "ID" (textAll [spaced "alt-ID" ['x'] (by decide) (by decide),
      spaced "ID" ['e', 'n'] (by decide) (by decide)]) = some "x" ∧
    attribute? "ID" (textAll [spaced "Note" ['I', 'D', '='] (by decide) (by decide),
      spaced "ID" ['e', 'n'] (by decide) (by decide)]) = some " ID=" := by
  decide +kernel

end WrittenAttribute

end LexicalModel.Markup
