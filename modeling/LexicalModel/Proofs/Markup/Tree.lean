import LexicalModel.Proofs.Markup.Text

/-!
# Trees and how they are shown

Markup is a tree of elements and texts.  A tree can be shown in many ways, since white space and
comments may stand around everything in an element, and an element that contains nothing may be one
tag or two.  Taking the comments out leaves a text that shows the same tree, whatever the comments
say: a comment ends where its closing stands first.

* `Tree` : an element or a text
* `Gap` : white space and comments
* `Shown`, `ShownAll` : the ways to show a tree, and trees one after the other
* `stripComments_shownAll` : without its comments, a text shows the same trees
-/

namespace LexicalModel.Markup

/-- A text, or an element: its name, what stands in its opening tag after the name, and what it
contains. -/
inductive Tree where
  /-- A text as it is written. -/
  | text (cs : List Char)
  /-- An element. -/
  | element (tag : String) (attributes : List Char) (children : List Tree)

/-- The name of an element: none of its characters has a meaning of its own in a tag. -/
def IsName (tag : String) : Prop :=
  tag.toList ≠ [] ∧ ∀ c ∈ tag.toList, c ∉ ['<', '>', '/', '!'] ∧ Text.isBlank c = false

-- The instance is spelled out so that only the characters of the name are gone through.
instance (tag : String) : Decidable (IsName tag) :=
  @instDecidableAnd _ _ inferInstance (List.decidableBAll _ _)

/-- What can stand in an opening tag after the name. -/
structure IsAttributes (cs : List Char) : Prop where
  /-- White space keeps it apart from the name. -/
  head : ∀ c ∈ cs.head?, Text.isBlank c = true
  /-- It has no brackets. -/
  noBracket : ∀ c ∈ cs, c ≠ '<' ∧ c ≠ '>'
  /-- It does not end as a tag that is an element of its own does. -/
  last : cs.getLast? ≠ some '/'

/-- The tag that opens an element. -/
def openTag (tag : String) (attributes : List Char) : List Char :=
  '<' :: (tag.toList ++ (attributes ++ ['>']))

/-- The tag that closes an element. -/
def closeTag (tag : String) : List Char := '<' :: '/' :: (tag.toList ++ ['>'])

/-- The tag that is an element of its own. -/
def emptyTag (tag : String) (attributes : List Char) : List Char :=
  '<' :: (tag.toList ++ (attributes ++ ['/', '>']))

/-- White space and comments. -/
inductive Gap : List Char → Prop
  | nil : Gap []
  | blank {c : Char} {cs : List Char} : Text.isBlank c = true → Gap cs → Gap (c :: cs)
  | comment {body cs : List Char} : ¬commentClosing <:+: body → Gap cs →
    Gap (commentOpening ++ body ++ commentClosing ++ cs)

mutual

/-- The ways to show a tree, with something of the kind `gap` around everything in an element. -/
inductive Shown (gap : List Char → Prop) : Tree → List Char → Prop
  | text {cs : List Char} : '<' ∉ cs → Shown gap (.text cs) cs
  | element {tag : String} {attributes cs : List Char} {children : List Tree} :
    IsName tag → IsAttributes attributes → ShownAll gap children cs →
    Shown gap (.element tag attributes children) (openTag tag attributes ++ cs ++ closeTag tag)
  | empty {tag : String} {attributes : List Char} : IsName tag → IsAttributes attributes →
    Shown gap (.element tag attributes []) (emptyTag tag attributes)

/-- The ways to show trees one after the other. -/
inductive ShownAll (gap : List Char → Prop) : List Tree → List Char → Prop
  | nil {ws : List Char} : gap ws → ShownAll gap [] ws
  | cons {tree : Tree} {trees : List Tree} {ws cs cs' : List Char} :
    gap ws → Shown gap tree cs → ShownAll gap trees cs' →
    ShownAll gap (tree :: trees) (ws ++ cs ++ cs')

end

/-! ### Comments -/

/-- Without its comments, `cs` is `cs'`, whatever follows it. -/
def Strips (cs cs' : List Char) : Prop :=
  ∀ rest, stripFrom 0 (cs ++ rest) = cs' ++ stripFrom 0 rest

theorem Strips.append {as as' bs bs' : List Char} (ha : Strips as as') (hb : Strips bs bs') :
    Strips (as ++ bs) (as' ++ bs') := by
  intro rest
  rw [List.append_assoc, ha, hb, List.append_assoc]

theorem strips_nil : Strips [] [] := fun _ => rfl

theorem Strips.stripComments_eq {cs cs' : List Char} (h : Strips cs cs') :
    stripComments cs = cs' := by
  simpa [stripComments, stripFrom] using h []

theorem strips_char {c : Char} (h : c ≠ '<') : Strips [c] [c] := by
  intro rest
  have hnone : commentLength? (c :: rest) = none := by
    simp [commentLength?, commentOpening, List.isPrefixOf?, Ne.symm h]
  simp only [List.cons_append, List.nil_append, stripFrom, hnone]

theorem strips_of_not_mem {cs : List Char} (h : '<' ∉ cs) : Strips cs cs := by
  induction cs with
  | nil => exact strips_nil
  | cons c cs ih =>
    rw [List.mem_cons, not_or] at h
    exact (strips_char (Ne.symm h.1)).append (ih h.2)

/-- A bracket that opens no comment stays. -/
theorem strips_bracket {d : Char} {cs : List Char} (hd : d ≠ '!') (h : '<' ∉ d :: cs) :
    Strips ('<' :: d :: cs) ('<' :: d :: cs) := by
  intro rest
  have hnone : commentLength? ('<' :: d :: (cs ++ rest)) = none := by
    simp [commentLength?, commentOpening, List.isPrefixOf?, Ne.symm hd]
  rw [List.cons_append, List.cons_append, stripFrom]
  simp only [hnone]
  rw [← List.cons_append, strips_of_not_mem h]
  rfl

theorem IsName.head {tag : String} (h : IsName tag) :
    ∃ c cs, tag.toList = c :: cs ∧ c ∉ ['<', '>', '/', '!'] ∧ Text.isBlank c = false := by
  obtain ⟨hne, hchars⟩ := h
  obtain ⟨c, cs, htag⟩ := List.exists_cons_of_ne_nil hne
  exact ⟨c, cs, htag, hchars c (htag ▸ List.mem_cons_self)⟩

theorem IsName.not_mem {tag : String} (h : IsName tag) : '<' ∉ tag.toList := fun hmem =>
  (h.2 '<' hmem).1 (by decide)

theorem IsAttributes.not_mem {cs : List Char} (h : IsAttributes cs) : '<' ∉ cs := fun hmem =>
  (h.noBracket '<' hmem).1 rfl

theorem strips_tag {tag : String} (htag : IsName tag) {more : List Char} (hmore : '<' ∉ more) :
    Strips ('<' :: (tag.toList ++ more)) ('<' :: (tag.toList ++ more)) := by
  have hno : '<' ∉ tag.toList ++ more := by simp [htag.not_mem, hmore]
  obtain ⟨c, cs, hc, hspecial, -⟩ := htag.head
  rw [hc] at hno ⊢
  exact strips_bracket (by rintro rfl; simp at hspecial) hno

theorem strips_openTag {tag : String} {attributes : List Char} (htag : IsName tag)
    (hattributes : IsAttributes attributes) :
    Strips (openTag tag attributes) (openTag tag attributes) :=
  strips_tag htag (by simp [hattributes.not_mem])

theorem strips_emptyTag {tag : String} {attributes : List Char} (htag : IsName tag)
    (hattributes : IsAttributes attributes) :
    Strips (emptyTag tag attributes) (emptyTag tag attributes) :=
  strips_tag htag (by simp [hattributes.not_mem])

theorem strips_closeTag {tag : String} (htag : IsName tag) :
    Strips (closeTag tag) (closeTag tag) :=
  strips_bracket (by decide) (by simp [htag.not_mem])

theorem indexOf?_closing {body : List Char} (h : ¬commentClosing <:+: body) (rest : List Char) :
    indexOf? commentClosing (body ++ (commentClosing ++ rest)) = some body.length := by
  induction body with
  | nil => rfl
  | cons b body ih =>
    -- The first closing cannot overlap the last one: its third character is no dash.
    have hstart : ¬commentClosing.isPrefixOf (b :: (body ++ (commentClosing ++ rest))) = true := by
      intro hp
      match body with
      | [] => simp [commentClosing, List.isPrefixOf] at hp
      | [c] => simp [commentClosing, List.isPrefixOf] at hp
      | c :: d :: body =>
        simp [commentClosing, List.isPrefixOf] at hp
        obtain ⟨rfl, rfl, rfl⟩ := hp
        exact h ⟨[], body, rfl⟩
    have hinner : ¬commentClosing <:+: body := fun hi =>
      h (hi.trans (List.suffix_cons b body).isInfix)
    rw [List.cons_append, indexOf?, if_neg hstart, ih hinner]
    rfl

theorem stripFrom_skip (cs rest : List Char) :
    stripFrom cs.length (cs ++ rest) = stripFrom 0 rest := by
  induction cs with
  | nil => rfl
  | cons c cs ih => exact ih

theorem strips_comment {body : List Char} (h : ¬commentClosing <:+: body) :
    Strips (commentOpening ++ body ++ commentClosing) [] := by
  intro rest
  have hlength : commentLength? ('<' :: '!' :: '-' :: '-' :: (body ++ (commentClosing ++ rest))) =
      some (body.length + 7) := by
    simp only [commentLength?, commentOpening, List.isPrefixOf?, beq_self_eq_true, if_true,
      indexOf?_closing h]
    rfl
  have hskip := stripFrom_skip ('!' :: '-' :: '-' :: (body ++ commentClosing)) rest
  have htext : commentOpening ++ body ++ commentClosing ++ rest =
      '<' :: '!' :: '-' :: '-' :: (body ++ (commentClosing ++ rest)) := by
    simp [commentOpening]
  rw [htext, stripFrom]
  simp only [hlength]
  simpa [commentClosing] using hskip

theorem strips_gap {g : List Char} (h : Gap g) : ∃ ws, Strips g ws ∧ Blank ws := by
  induction h with
  | nil => exact ⟨[], strips_nil, by simp [Blank]⟩
  | @blank c cs hc _ ih =>
    obtain ⟨ws, hstrips, hws⟩ := ih
    have hne : c ≠ '<' := by
      rintro rfl
      exact absurd hc (by decide)
    exact ⟨c :: ws, (strips_char hne).append hstrips, List.forall_mem_cons.2 ⟨hc, hws⟩⟩
  | comment hbody _ ih =>
    obtain ⟨ws, hstrips, hws⟩ := ih
    exact ⟨ws, (strips_comment hbody).append hstrips, hws⟩

mutual

/-- Without its comments, what is shown shows the same tree, with white space only around
everything. -/
theorem strips_shown {tree : Tree} {cs : List Char} (h : Shown Gap tree cs) :
    ∃ cs', Strips cs cs' ∧ Shown Blank tree cs' := by
  cases h with
  | text h => exact ⟨cs, strips_of_not_mem h, .text h⟩
  | element htag hattributes h =>
    obtain ⟨inner, hstrips, hinner⟩ := strips_shownAll h
    exact ⟨_, ((strips_openTag htag hattributes).append hstrips).append (strips_closeTag htag),
      .element htag hattributes hinner⟩
  | empty htag hattributes =>
    exact ⟨_, strips_emptyTag htag hattributes, .empty htag hattributes⟩

theorem strips_shownAll {trees : List Tree} {cs : List Char} (h : ShownAll Gap trees cs) :
    ∃ cs', Strips cs cs' ∧ ShownAll Blank trees cs' := by
  cases h with
  | nil h =>
    obtain ⟨ws, hstrips, hws⟩ := strips_gap h
    exact ⟨ws, hstrips, .nil hws⟩
  | cons hgap htree htrees =>
    obtain ⟨ws, hstrips, hws⟩ := strips_gap hgap
    obtain ⟨cs, hstrips', hcs⟩ := strips_shown htree
    obtain ⟨cs', hstrips'', hcs'⟩ := strips_shownAll htrees
    exact ⟨_, (hstrips.append hstrips').append hstrips'', .cons hws hcs hcs'⟩

end

theorem stripComments_shownAll {trees : List Tree} {cs : List Char} (h : ShownAll Gap trees cs) :
    ShownAll Blank trees (stripComments cs) := by
  obtain ⟨cs', hstrips, hcs'⟩ := strips_shownAll h
  rw [hstrips.stripComments_eq]
  exact hcs'

end LexicalModel.Markup
