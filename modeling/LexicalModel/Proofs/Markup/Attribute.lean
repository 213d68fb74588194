import LexicalModel.Proofs.Markup.Tree

/-!
# Attributes in what is shown

An attribute is looked for where a word starts.  White space is no word, so an attribute that
follows the name of the element after some white space is found, and its value is what was written.

* `Attributed` : what stands in an opening tag with one attribute, or with none
* `attribute?_attributed` : the value that is found there
-/

namespace LexicalModel.Markup

/-- What stands in an opening tag after the name of the element: the attribute with the given value,
or none. -/
inductive Attributed (name : String) : Option String → List Char → Prop
  | absent {ws : List Char} : Blank ws → Attributed name none ws
  | present {ws ws' : List Char} (value : String) : ws ≠ [] → Blank ws → Blank ws' →
    Attributed name (some value) (ws ++ (name.toList ++ '=' :: '"' :: (escape value ++ '"' :: ws')))

/-! ### White space is no word -/

theorem mem_points_of_inRanges {ranges : List (Nat × Nat)} {n : Nat}
    (h : Text.inRanges ranges n = true) :
    n ∈ ranges.flatMap fun r => List.range' r.1 (r.2 + 1 - r.1) := by
  induction ranges with
  | nil => cases h
  | cons r rs ih =>
    obtain ⟨lo, hi⟩ := r
    rw [Text.inRanges] at h
    rw [List.flatMap_cons, List.mem_append, List.mem_range'_1]
    split_ifs at h with hlo hhi
    · exact .inl ⟨by omega, by omega⟩
    · exact .inr (ih h)

theorem isWordChar_of_isBlank {c : Char} (h : Text.isBlank c = true) :
    Text.isWordChar c = false := by
  have hall : ∀ n ∈ Text.blankRanges.flatMap fun r => List.range' r.1 (r.2 + 1 - r.1),
      Text.inRanges Text.wordRanges n = false := by
    decide +kernel
  exact hall c.toNat (mem_points_of_inRanges h)

/-! ### Finding the attribute -/

theorem attributeFrom?_blank {name ws : List Char} (hws : Blank ws)
    (hname : ∀ c ∈ name.head?, Text.isBlank c = false) (hne : name ≠ []) (cs : List Char) :
    attributeFrom? name false (ws ++ cs) = attributeFrom? name false cs := by
  induction ws with
  | nil => rfl
  | cons c ws ih =>
    obtain ⟨hc, hrest⟩ := List.forall_mem_cons.1 hws
    have hnone : attributeAt? name (c :: (ws ++ cs)) = none := by
      obtain ⟨d, ds, rfl⟩ := List.exists_cons_of_ne_nil hne
      have hdc : ¬d = c := by
        rintro rfl
        rw [hname d rfl] at hc
        cases hc
      simp only [attributeAt?, List.isPrefixOf?, beq_iff_eq, hdc, if_false]
    rw [List.cons_append, attributeFrom?]
    simp only [Bool.false_eq_true, if_false, hnone, isWordChar_of_isBlank hc]
    exact ih hrest

theorem attributeAt?_self (name : List Char) (value : String) (ws : List Char) :
    attributeAt? name (name ++ '=' :: '"' :: (escape value ++ '"' :: ws)) =
      some (escape value) := by
  have hfront : name.isPrefixOf? (name ++ '=' :: '"' :: (escape value ++ '"' :: ws)) =
      some ('=' :: '"' :: (escape value ++ '"' :: ws)) :=
    List.isPrefixOf?_eq_some_iff_append_eq.2 rfl
  have hequals : ('=' :: '"' :: (escape value ++ '"' :: ws)).dropWhile Text.isBlank =
      '=' :: '"' :: (escape value ++ '"' :: ws) := List.dropWhile_cons_of_neg (by decide)
  have hquote : ('"' :: (escape value ++ '"' :: ws)).dropWhile Text.isBlank =
      '"' :: (escape value ++ '"' :: ws) := List.dropWhile_cons_of_neg (by decide)
  have hvalue : '"' ∉ escape value := fun hmem => (mem_escape hmem).2.2 rfl
  simp only [attributeAt?, hfront, hequals, hquote]
  rw [if_pos (by simp), takeWhile_ne_append hvalue]

/-- The value of the attribute, if it is there. -/
theorem attribute?_attributed {name : String} (hname : IsName name) {value : Option String}
    {cs : List Char} (h : Attributed name value cs) : attribute? name cs = value := by
  obtain ⟨c, rest, hc, -, hblank⟩ := hname.head
  have hhead : ∀ d ∈ name.toList.head?, Text.isBlank d = false := by
    rw [hc]
    intro d hd
    cases hd
    exact hblank
  have hne : name.toList ≠ [] := hname.1
  cases h with
  | absent hws =>
    have hnone := attributeFrom?_blank hws hhead hne []
    rw [List.append_nil] at hnone
    rw [attribute?, hnone]
    rfl
  | @present ws ws' value _ hws hws' =>
    have hfound := attributeAt?_self name.toList value ws'
    rw [attribute?, attributeFrom?_blank hws hhead hne]
    rw [hc, List.cons_append] at hfound ⊢
    rw [attributeFrom?]
    simp only [Bool.false_eq_true, if_false, hfound, Option.map_some, unescape_escape,
      String.ofList_toList]

/-! ### Attributes in a tag -/

theorem isBlank_ne {c d : Char} (hc : Text.isBlank c = true) (hd : Text.isBlank d = false) :
    c ≠ d := by
  rintro rfl
  rw [hc] at hd
  cases hd

theorem Blank.isAttributes {ws : List Char} (h : Blank ws) : IsAttributes ws where
  head c hc := h c (List.mem_of_head? hc)
  noBracket c hc := ⟨isBlank_ne (h c hc) (by decide), isBlank_ne (h c hc) (by decide)⟩
  last hlast := isBlank_ne (h '/' (List.mem_of_getLast? hlast)) (by decide) rfl

theorem Attributed.isAttributes {name : String} (hname : IsName name) {value : Option String}
    {cs : List Char} (h : Attributed name value cs) : IsAttributes cs := by
  cases h with
  | absent hws => exact hws.isAttributes
  | @present ws ws' value hne hws hws' =>
    refine ⟨?_, ?_, ?_⟩
    · rw [List.head?_append_of_ne_nil ws hne]
      exact hws.isAttributes.head
    · have hnames : ∀ c ∈ name.toList, c ≠ '<' ∧ c ≠ '>' := by
        intro c hc
        have hspecial := (hname.2 c hc).1
        simp only [List.mem_cons, List.not_mem_nil, or_false, not_or] at hspecial
        exact ⟨hspecial.1, hspecial.2.1⟩
      have hvalue : ∀ c ∈ escape value, c ≠ '<' ∧ c ≠ '>' := fun c hc =>
        ⟨(mem_escape hc).1, (mem_escape hc).2.1⟩
      have hquoted : ∀ c ∈ '=' :: '"' :: (escape value ++ '"' :: ws'), c ≠ '<' ∧ c ≠ '>' :=
        List.forall_mem_cons.2 ⟨by decide, List.forall_mem_cons.2 ⟨by decide,
          List.forall_mem_append.2 ⟨hvalue, List.forall_mem_cons.2
            ⟨by decide, hws'.isAttributes.noBracket⟩⟩⟩⟩
      exact List.forall_mem_append.2 ⟨hws.isAttributes.noBracket,
        List.forall_mem_append.2 ⟨hnames, hquoted⟩⟩
    · have hlast : ('"' :: ws').getLast? ≠ some '/' := by
        intro hlast
        rcases List.mem_cons.1 (List.mem_of_getLast? hlast) with hquote | hmem
        · exact absurd hquote (by decide)
        · exact isBlank_ne (hws' _ hmem) (by decide) rfl
      have hfront : ws ++ (name.toList ++ '=' :: '"' :: (escape value ++ '"' :: ws')) =
          ws ++ (name.toList ++ ('=' :: '"' :: escape value)) ++ '"' :: ws' := by
        simp
      rw [hfront, List.getLast?_append_of_ne_nil _ (List.cons_ne_nil _ _)]
      exact hlast

end LexicalModel.Markup
