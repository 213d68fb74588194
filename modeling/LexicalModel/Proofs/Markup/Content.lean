import LexicalModel.Proofs.Markup.Elements

/-!
# Well-formed contents and the tags in them

What stands between the tags of an element is well formed if it is made of texts, elements, comments
and the like.  The search for an element knows nothing of this.  What it comes to depends on the
tags that stand in the text, at whatever depth they do, and here it is said which.

* `Opens`, `Closes` : a tag of the name stands in a text
* `yields_of_not_opens` : without such a tag no element is found
* `untilClosing?_isSome_iff` : an element is ended by every tag that closes its name
* `Content` : well-formed contents
* `Content.hides_of_opens` : an opening tag inside of contents hides all that follows them
-/

namespace LexicalModel.Markup

/-! ### Tags in a text -/

/-- A tag that opens an element of the name stands in the text. -/
def Opens (tag : String) (cs : List Char) : Prop :=
  ∃ d ∈ cs, EndsName d ∧ '<' :: (tag.toList ++ [d]) <:+: cs

-- The instances are spelled out, since there is more than one for parts of a list.
instance (tag : String) (cs : List Char) : Decidable (Opens tag cs) :=
  @List.decidableBEx _ _ (fun _ => @instDecidableAnd _ _ inferInstance
    (List.instDecidableIsInfixOfDecidableEq _ _)) cs

/-- The tag that closes an element, with white space after the name. -/
def closeTagWith (tag : String) (ws : List Char) : List Char :=
  '<' :: '/' :: (tag.toList ++ (ws ++ ['>']))

/-- A tag that closes an element of the name stands in the text. -/
def Closes (tag : String) (cs : List Char) : Prop :=
  ∃ ws, Blank ws ∧ closeTagWith tag ws <:+: cs

/-- No tag is cut off at the end of the text. -/
def Shut (cs : List Char) : Prop := ∀ back, '<' :: back <:+ cs → '>' ∈ back

theorem shut_of_not_mem {cs : List Char} (h : '<' ∉ cs) : Shut cs := fun _ hback =>
  absurd (hback.subset List.mem_cons_self) h

theorem shut_concat (cs : List Char) : Shut (cs ++ ['>']) := by
  rintro back ⟨front, hfront⟩
  have hlast := congrArg List.getLast? hfront
  cases back with
  | nil => simp at hlast
  | cons c back =>
    simp only [List.getLast?_append, List.getLast?_cons_cons, List.getLast?_singleton] at hlast
    exact List.mem_of_getLast? (by simpa using hlast)

theorem shut_openTag (tag : String) (attributes : List Char) : Shut (openTag tag attributes) := by
  simpa [openTag] using shut_concat ('<' :: (tag.toList ++ attributes))

theorem shut_emptyTag (tag : String) (attributes : List Char) : Shut (emptyTag tag attributes) := by
  simpa [emptyTag] using shut_concat ('<' :: (tag.toList ++ (attributes ++ ['/'])))

theorem shut_closeTagWith (tag : String) (ws : List Char) : Shut (closeTagWith tag ws) := by
  simpa [closeTagWith] using shut_concat ('<' :: '/' :: (tag.toList ++ ws))

theorem Shut.append {cs cs' : List Char} (h : Shut cs) (h' : Shut cs') : Shut (cs ++ cs') := by
  rintro back ⟨front, hfront⟩
  rcases List.append_eq_append_iff.1 hfront with ⟨as, hcs, hback⟩ | ⟨bs, -, hcs'⟩
  · cases as with
    | nil => exact h' back ⟨[], hback⟩
    | cons c as =>
      obtain ⟨rfl, rfl⟩ := List.cons.inj hback
      exact List.mem_append_left _ (h as ⟨front, hcs.symm⟩)
  · exact h' back ⟨bs, hcs'.symm⟩

theorem Shut.of_cons {c : Char} {cs : List Char} (h : Shut (c :: cs)) : Shut cs := fun back hback =>
  h back (hback.trans (List.suffix_cons c cs))

theorem Opens.mono {tag : String} {cs cs' : List Char} (h : Opens tag cs) (hsub : cs <:+: cs') :
    Opens tag cs' := by
  obtain ⟨d, hd, hends, hwithin⟩ := h
  exact ⟨d, hsub.subset hd, hends, hwithin.trans hsub⟩

theorem not_opens_of_not_mem (tag : String) {cs : List Char} (h : '<' ∉ cs) : ¬Opens tag cs := by
  rintro ⟨d, -, -, hwithin⟩
  exact h (hwithin.subset List.mem_cons_self)

theorem IsName.bracket_not_mem {tag : String} (h : IsName tag) : '>' ∉ tag.toList :=
  EndsName.not_mem h (.inl rfl)

/-- Where the only bracket of a tag is its last character, nothing of it is left after a bracket. -/
theorem eq_nil_of_bracket_mem {body front back : List Char} {d : Char} (hbody : '>' ∉ body)
    (h : front ++ back = body ++ [d]) (hfront : '>' ∈ front) : back = [] := by
  rcases List.eq_nil_or_concat back with hnil | ⟨more, last, rfl⟩
  · exact hnil
  · rw [List.concat_eq_append, ← List.append_assoc] at h
    have hsame : front ++ more = body := List.append_inj_left' h rfl
    exact absurd (hsame ▸ List.mem_append_left more hfront) hbody

theorem opens_append_iff {tag : String} (htag : IsName tag) {cs : List Char} (hshut : Shut cs)
    (cs' : List Char) : Opens tag (cs ++ cs') ↔ Opens tag cs ∨ Opens tag cs' := by
  constructor
  · rintro ⟨d, -, hends, hwithin⟩
    have hmem : d ∈ '<' :: (tag.toList ++ [d]) := by simp
    rcases List.infix_append_iff.1 hwithin with hleft | hright | ⟨front, back, htext, hleft, hright⟩
    · exact .inl ⟨d, hleft.subset hmem, hends, hleft⟩
    · exact .inr ⟨d, hright.subset hmem, hends, hright⟩
    · cases front with
      | nil =>
        have hstart : '<' :: (tag.toList ++ [d]) <+: cs' := by rwa [htext]
        exact .inr ⟨d, hstart.subset hmem, hends, hstart.isInfix⟩
      | cons c front =>
        obtain ⟨rfl, htail⟩ := List.cons.inj htext
        have hnil := eq_nil_of_bracket_mem htag.bracket_not_mem htail.symm (hshut front hleft)
        rw [hnil, List.append_nil] at htext
        rw [← htext] at hleft
        exact .inl ⟨d, hleft.subset hmem, hends, hleft.isInfix⟩
  · rintro (h | h)
    · exact h.mono (List.prefix_append cs cs').isInfix
    · exact h.mono (List.suffix_append cs cs').isInfix

/-- A tag opens no element of another name. -/
theorem not_opens_tag {tag other : String} (htag : IsName tag) (hother : IsName other)
    (hne : tag ≠ other) {d : Char} (hd : EndsName d) {more : List Char} (hmore : '<' ∉ d :: more) :
    ¬Opens tag ('<' :: (other.toList ++ d :: more)) := by
  rintro ⟨d', -, hends, hwithin⟩
  rcases List.infix_cons_iff.1 hwithin with hstart | hinside
  · obtain ⟨rest, hrest⟩ := hstart
    have htext : tag.toList ++ d' :: rest = other.toList ++ d :: more := by
      simpa using hrest
    obtain ⟨c, cs, hcs, hc⟩ := name_continues htag hne hd htext
    have hmem : c ∈ other.toList := by rw [hcs]; simp
    rw [(List.cons.inj hc).1] at hends
    exact hother.not_endsName hmem hends
  · have hmem := hinside.subset List.mem_cons_self
    rcases List.mem_append.1 hmem with hmem | hmem
    · exact hother.not_mem hmem
    · exact hmore hmem

theorem not_opens_openTag {tag other : String} (htag : IsName tag) (hother : IsName other)
    (hne : tag ≠ other) {attributes : List Char} (h : IsAttributes attributes) :
    ¬Opens tag (openTag other attributes) := by
  obtain ⟨d, more, htext, hd, hmore⟩ := exists_openTag other h
  rw [htext]
  exact not_opens_tag htag hother hne hd hmore

theorem not_opens_emptyTag {tag other : String} (htag : IsName tag) (hother : IsName other)
    (hne : tag ≠ other) {attributes : List Char} (h : IsAttributes attributes) :
    ¬Opens tag (emptyTag other attributes) := by
  obtain ⟨d, more, htext, hd, hmore⟩ := exists_emptyTag other h
  rw [htext]
  exact not_opens_tag htag hother hne hd hmore

theorem not_opens_closeTagWith {tag other : String} (htag : IsName tag) (hother : IsName other)
    {ws : List Char} (hws : Blank ws) : ¬Opens tag (closeTagWith other ws) := by
  rintro ⟨d, -, -, hwithin⟩
  rcases List.infix_cons_iff.1 hwithin with ⟨rest, hrest⟩ | hinside
  · obtain ⟨c, cs, hc, hspecial, -⟩ := htag.head
    rw [hc] at hrest
    obtain ⟨rfl, -⟩ := List.cons.inj (List.cons.inj hrest).2
    exact hspecial (by decide)
  · have hmem := hinside.subset List.mem_cons_self
    simp [hother.not_mem, hws.not_mem] at hmem

/-! ### The search for an element -/

theorem elementAt?_of_not_opens {tag : String} (htag : IsName tag) {cs : List Char}
    (hbracket : '>' ∈ cs) (h : ¬Opens tag ('<' :: cs)) (rest : List Char) :
    elementAt? tag.toList ('<' :: (cs ++ rest)) = none := by
  by_cases hfront : ∃ more, tag.toList ++ more = cs ++ rest
  · obtain ⟨more, hmore⟩ := hfront
    rcases List.append_eq_append_iff.1 hmore with ⟨as, hcs, rfl⟩ | ⟨bs, htext, -⟩
    · cases as with
      | nil =>
        rw [hcs, List.append_nil] at hbracket
        exact absurd hbracket htag.bracket_not_mem
      | cons d as =>
        -- the name does not end here, so it is the front of a longer one
        have hends : ¬EndsName d := fun hends =>
          h ⟨d, by simp [hcs], hends, [], as, by simp [hcs]⟩
        rw [← hmore]
        exact elementAt?_of_not_endsName tag.toList hends (as ++ rest)
    · have hmem : '>' ∈ tag.toList := by simp [htext, hbracket]
      exact absurd hmem htag.bracket_not_mem
  · exact elementAt?_of_not_front fun more hmore => hfront ⟨more, hmore⟩

/-- **No element is found where no tag opens it**, whatever follows. -/
theorem yields_of_not_opens {tag : String} (htag : IsName tag) {cs : List Char} (hshut : Shut cs)
    (h : ¬Opens tag cs) : Yields tag cs [] := by
  induction cs with
  | nil => exact fun _ => rfl
  | cons c cs ih =>
    have hrest := ih hshut.of_cons fun hopens => h (hopens.mono (List.suffix_cons c cs).isInfix)
    intro rest
    have hnone : elementAt? tag.toList (c :: (cs ++ rest)) = none := by
      by_cases hc : c = '<'
      · subst hc
        exact elementAt?_of_not_opens htag (hshut cs (List.suffix_refl _)) h rest
      · exact elementAt?_of_ne _ hc _
    rw [List.cons_append, elementsFrom]
    simp only [hnone]
    exact hrest rest

theorem Yields.element?_append {tag : String} {cs : List Char} (h : Yields tag cs [])
    (rest : List Char) : element? tag (cs ++ rest) = element? tag rest := by
  rw [element?, elements, h rest]
  rfl

theorem Yields.element?_eq_some {tag : String} {cs : List Char} {e : Element} {es : List Element}
    (h : Yields tag cs (e :: es)) (rest : List Char) : element? tag (cs ++ rest) = some e := by
  rw [element?, elements, h rest]
  rfl

/-- The first element is the one that is opened first, as far as to its closing tag. -/
theorem element?_openTag {tag : String} {attributes : List Char}
    (hattributes : IsAttributes attributes) {body inner : List Char} {n : Nat}
    (h : untilClosing? tag.toList body = some (inner, n)) :
    element? tag (openTag tag attributes ++ body) = some ⟨attributes, inner⟩ := by
  have hfound := elementAt?_openTag hattributes h
  rw [openTag, List.cons_append] at hfound ⊢
  rw [element?, elements, elementsFrom]
  simp only [hfound, List.head?_cons]

/-! ### The search for a closing tag -/

theorem closingLength?_eq_some_iff {tag : String} {cs : List Char} {n : Nat} :
    closingLength? tag.toList cs = some n ↔
      ∃ ws, Blank ws ∧ closeTagWith tag ws <+: cs ∧ n = tag.toList.length + ws.length + 3 := by
  constructor
  · intro h
    unfold closingLength? at h
    split at h
    · next rest hrest =>
      have happend := List.isPrefixOf?_eq_some_iff_append_eq.1 hrest
      have hws : Blank (rest.takeWhile Text.isBlank) := fun c hc => List.mem_takeWhile_imp hc
      have hsplit := List.prefix_iff_eq_append.1 <| List.takeWhile_prefix Text.isBlank (l := rest)
      dsimp only at h
      split at h
      · next more hmore =>
        rw [hmore] at hsplit
        have htext : closeTagWith tag (rest.takeWhile Text.isBlank) ++ more = cs := by
          rw [← happend]
          simpa [closeTagWith] using hsplit
        exact ⟨_, hws, ⟨more, htext⟩, (Option.some.inj h).symm⟩
      · cases h
    · cases h
  · rintro ⟨ws, hws, ⟨more, rfl⟩, rfl⟩
    have hfront : ('<' :: '/' :: tag.toList).isPrefixOf? (closeTagWith tag ws ++ more) =
        some (ws ++ '>' :: more) := by
      rw [List.isPrefixOf?_eq_some_iff_append_eq]
      simp [closeTagWith]
    have hspace : (ws ++ '>' :: more).takeWhile Text.isBlank = ws := by
      rw [List.takeWhile_append_of_pos hws, List.takeWhile_cons_of_neg (by decide),
        List.append_nil]
    simp only [closingLength?, hfront, hspace, List.drop_left]

theorem Closes.mono {tag : String} {cs cs' : List Char} (h : Closes tag cs) (hsub : cs <:+: cs') :
    Closes tag cs' := by
  obtain ⟨ws, hws, hwithin⟩ := h
  exact ⟨ws, hws, hwithin.trans hsub⟩

theorem Closes.bracket_mem {tag : String} {cs : List Char} (h : Closes tag cs) : '>' ∈ cs := by
  obtain ⟨ws, -, hwithin⟩ := h
  exact hwithin.subset (by simp [closeTagWith])

/-- What follows a bracket does not matter to the closing tag in front of it. -/
theorem closingLength?_append {tag : String} (htag : IsName tag) {cs : List Char}
    (hbracket : '>' ∈ cs) (rest : List Char) :
    closingLength? tag.toList (cs ++ rest) = closingLength? tag.toList cs := by
  refine Option.ext fun n => ?_
  rw [closingLength?_eq_some_iff, closingLength?_eq_some_iff]
  refine exists_congr fun ws => and_congr_right fun hws => and_congr_left fun _ => ?_
  constructor
  · rintro ⟨more, hmore⟩
    rcases List.append_eq_append_iff.1 hmore with ⟨as, hcs, -⟩ | ⟨bs, hclose, -⟩
    · exact ⟨as, hcs.symm⟩
    · have hbody : '>' ∉ '<' :: '/' :: (tag.toList ++ ws) := by
        simp only [List.mem_cons, List.mem_append, htag.bracket_not_mem]
        rintro (h | h | h | h)
        · exact absurd h (by decide)
        · exact absurd h (by decide)
        · exact h
        · exact absurd (hws '>' h) (by decide)
      have hconcat : cs ++ bs = '<' :: '/' :: (tag.toList ++ ws) ++ ['>'] := by
        rw [← hclose]
        simp [closeTagWith]
      rw [eq_nil_of_bracket_mem hbody hconcat hbracket, List.append_nil] at hclose
      exact ⟨[], by rw [List.append_nil, hclose]⟩
  · exact fun hstart => hstart.trans (List.prefix_append cs rest)

/-- **An element is ended by every tag that closes its name.** -/
theorem untilClosing?_isSome_iff {tag : String} {cs : List Char} :
    (untilClosing? tag.toList cs).isSome = true ↔ Closes tag cs := by
  induction cs with
  | nil =>
    refine iff_of_false (by simp [untilClosing?]) fun h => ?_
    exact absurd h.bracket_mem List.not_mem_nil
  | cons c cs ih =>
    rw [untilClosing?]
    cases hlength : closingLength? tag.toList (c :: cs) with
    | some n =>
      obtain ⟨ws, hws, hstart, -⟩ := closingLength?_eq_some_iff.1 hlength
      exact iff_of_true rfl ⟨ws, hws, hstart.isInfix⟩
    | none =>
      rw [Option.isSome_map, ih]
      constructor
      · exact fun h => h.mono (List.suffix_cons c cs).isInfix
      · rintro ⟨ws, hws, hwithin⟩
        rcases List.infix_cons_iff.1 hwithin with hstart | hinside
        · rw [closingLength?_eq_some_iff.2 ⟨ws, hws, hstart, rfl⟩] at hlength
          cases hlength
        · exact ⟨ws, hws, hinside⟩

theorem closes_of_untilClosing? {tag : String} {cs : List Char} {r : List Char × Nat}
    (h : untilClosing? tag.toList cs = some r) : Closes tag cs :=
  untilClosing?_isSome_iff.1 (Option.isSome_iff_exists.2 ⟨r, h⟩)

instance (tag : String) (cs : List Char) : Decidable (Closes tag cs) :=
  decidable_of_iff _ untilClosing?_isSome_iff

/-- Once the closing tag has been found, it does not matter what follows. -/
theorem untilClosing?_append_of_some {tag : String} (htag : IsName tag) {cs : List Char}
    {r : List Char × Nat} (h : untilClosing? tag.toList cs = some r) (rest : List Char) :
    untilClosing? tag.toList (cs ++ rest) = some r := by
  induction cs generalizing r with
  | nil => cases h
  | cons c cs ih =>
    have hlength := closingLength?_append htag (closes_of_untilClosing? h).bracket_mem rest
    rw [List.cons_append] at hlength ⊢
    rw [untilClosing?] at h ⊢
    rw [hlength]
    cases hclosing : closingLength? tag.toList (c :: cs) with
    | some n => rwa [hclosing] at h
    | none =>
      rw [hclosing] at h
      obtain ⟨r', hr', rfl⟩ := Option.map_eq_some_iff.1 h
      rw [ih hr']
      rfl

/-- A text in which no tag closes the element is part of it. -/
theorem untilClosing?_append_of_not_closes {tag : String} (htag : IsName tag) {cs : List Char}
    (hshut : Shut cs) (h : ¬Closes tag cs) (rest : List Char) :
    untilClosing? tag.toList (cs ++ rest) =
      (untilClosing? tag.toList rest).map fun r => (cs ++ r.1, r.2) := by
  induction cs with
  | nil => simp
  | cons c cs ih =>
    have hrest := ih hshut.of_cons fun hcloses => h (hcloses.mono (List.suffix_cons c cs).isInfix)
    have hnone : closingLength? tag.toList (c :: (cs ++ rest)) = none := by
      by_cases hc : c = '<'
      · subst hc
        have hbracket : '>' ∈ '<' :: cs := List.mem_cons_of_mem _ (hshut cs (List.suffix_refl _))
        rw [← List.cons_append, closingLength?_append htag hbracket,
          Option.eq_none_iff_forall_ne_some]
        intro n hn
        obtain ⟨ws, hws, hstart, -⟩ := closingLength?_eq_some_iff.1 hn
        exact h ⟨ws, hws, hstart.isInfix⟩
      · exact closingLength?_of_ne _ hc _
    rw [List.cons_append, untilClosing?, hnone, hrest]
    simp only [Option.map_map, Function.comp_def, List.cons_append]

/-! ### Well-formed contents -/

/-- What can stand in a tag after the name.  The values of attributes may have a bracket that
closes, but none that opens. -/
structure IsTail (cs : List Char) : Prop where
  /-- White space keeps it apart from the name. -/
  head : ∀ c ∈ cs.head?, Text.isBlank c = true
  /-- It has no bracket that opens. -/
  noBracket : '<' ∉ cs
  /-- It does not end as a tag that is an element of its own does. -/
  last : cs.getLast? ≠ some '/'

/-- A comment. -/
def IsComment (piece : List Char) : Prop :=
  ∃ body, ¬commentClosing <:+: body ∧ piece = commentOpening ++ body ++ commentClosing

/-- An instruction, or characters that are taken as they are.  Both may hold what looks like a tag,
but not what looks like the opening of a comment. -/
def IsRaw (piece : List Char) : Prop :=
  ¬commentOpening <:+: piece ∧ ∃ body,
    piece = "<?".toList ++ body ++ "?>".toList ∨ piece = "<![CDATA[".toList ++ body ++ "]]>".toList

/-- What may stand among texts and elements. -/
def IsNote (piece : List Char) : Prop := IsComment piece ∨ IsRaw piece

/-- Well-formed contents of an element: texts, elements and pieces of the kind `note`.  After the
name in a tag stands something of the kind `tail`. -/
inductive Content (tail note : List Char → Prop) : List Char → Prop
  | nil : Content tail note []
  | text {t cs : List Char} : '<' ∉ t → Content tail note cs → Content tail note (t ++ cs)
  | note {piece cs : List Char} : note piece → Content tail note cs →
    Content tail note (piece ++ cs)
  | empty {tag : String} {attributes cs : List Char} : IsName tag → tail attributes →
    Content tail note cs → Content tail note (emptyTag tag attributes ++ cs)
  | element {tag : String} {attributes inner ws cs : List Char} : IsName tag → tail attributes →
    Content tail note inner → Blank ws → Content tail note cs →
    Content tail note (openTag tag attributes ++ inner ++ closeTagWith tag ws ++ cs)

theorem strips_closeTagWith {tag : String} (htag : IsName tag) {ws : List Char} (hws : Blank ws) :
    Strips (closeTagWith tag ws) (closeTagWith tag ws) :=
  strips_bracket (by decide) (by simp [htag.not_mem, hws.not_mem])

/-- A text in which no comment opens stays. -/
theorem strips_of_not_opening {cs : List Char} (h : ¬commentOpening <:+: cs) :
    Strips (cs ++ ['>']) (cs ++ ['>']) := by
  induction cs with
  | nil => exact strips_char (by decide)
  | cons c cs ih =>
    have hrest := ih fun hwithin => h (hwithin.trans (List.suffix_cons c cs).isInfix)
    intro rest
    have hnone : commentOpening.isPrefixOf? (c :: (cs ++ ['>'] ++ rest)) = none := by
      rw [Option.eq_none_iff_forall_ne_some]
      intro more hmore
      have happend : commentOpening ++ more = (c :: cs) ++ ('>' :: rest) := by
        simpa using List.isPrefixOf?_eq_some_iff_append_eq.1 hmore
      rcases List.append_eq_append_iff.1 happend with ⟨as, hcs, -⟩ | ⟨bs, hopening, hbs⟩
      · exact h ⟨[], as, hcs.symm⟩
      · cases bs with
        | nil => exact h ⟨[], [], by simp [hopening]⟩
        | cons b bs =>
          obtain ⟨rfl, -⟩ := List.cons.inj hbs
          have hmem : '>' ∈ commentOpening := by simp [hopening]
          exact absurd hmem (by decide)
    rw [List.cons_append, List.cons_append, stripFrom]
    simp only [commentLength?, hnone]
    rw [hrest rest]
    rfl

theorem IsRaw.exists_concat {piece : List Char} (h : IsRaw piece) : ∃ cs, piece = cs ++ ['>'] := by
  obtain ⟨-, body, rfl | rfl⟩ := h
  · exact ⟨"<?".toList ++ body ++ ['?'], by simp⟩
  · exact ⟨"<![CDATA[".toList ++ body ++ [']', ']'], by simp⟩

theorem IsRaw.strips {piece : List Char} (h : IsRaw piece) : Strips piece piece := by
  obtain ⟨cs, rfl⟩ := h.exists_concat
  exact strips_of_not_opening fun hwithin => h.1 (hwithin.trans (List.prefix_append _ _).isInfix)

theorem IsComment.strips {piece : List Char} (h : IsComment piece) : Strips piece [] := by
  obtain ⟨body, hbody, rfl⟩ := h
  exact strips_comment hbody

namespace Content

variable {tail note note' : List Char → Prop} {x : List Char}

/-- Without its comments, well-formed contents are well formed. -/
theorem strips (htail : ∀ cs, tail cs → '<' ∉ cs)
    (hnote : ∀ piece, note piece → Strips piece [] ∨ note' piece ∧ Strips piece piece)
    (h : Content tail note x) : ∃ x', Strips x x' ∧ Content tail note' x' := by
  induction h with
  | nil => exact ⟨[], strips_nil, .nil⟩
  | text ht _ ih =>
    obtain ⟨cs', hstrips, hcs'⟩ := ih
    exact ⟨_, (strips_of_not_mem ht).append hstrips, .text ht hcs'⟩
  | note hpiece _ ih =>
    obtain ⟨cs', hstrips, hcs'⟩ := ih
    rcases hnote _ hpiece with hnone | ⟨hpiece', hsame⟩
    · exact ⟨cs', hnone.append hstrips, hcs'⟩
    · exact ⟨_, hsame.append hstrips, .note hpiece' hcs'⟩
  | empty htag hattributes _ ih =>
    obtain ⟨cs', hstrips, hcs'⟩ := ih
    have hno := htail _ hattributes
    exact ⟨_, (strips_tag htag (by simp [hno])).append hstrips, .empty htag hattributes hcs'⟩
  | @element tag attributes _ _ _ htag hattributes _ hws _ ihinner ih =>
    obtain ⟨inner', hstrips, hinner'⟩ := ihinner
    obtain ⟨cs', hstrips', hcs'⟩ := ih
    have hopen : Strips (openTag tag attributes) (openTag tag attributes) :=
      strips_tag htag (by simp [htail _ hattributes])
    exact ⟨_, ((hopen.append hstrips).append (strips_closeTagWith htag hws)).append hstrips',
      .element htag hattributes hinner' hws hcs'⟩

theorem shut (hnote : ∀ piece, note piece → ∃ cs, piece = cs ++ ['>'])
    (h : Content tail note x) : Shut x := by
  induction h with
  | nil => exact shut_of_not_mem List.not_mem_nil
  | text ht _ ih => exact (shut_of_not_mem ht).append ih
  | note hpiece _ ih =>
    obtain ⟨cs, rfl⟩ := hnote _ hpiece
    exact (shut_concat cs).append ih
  | empty _ _ _ ih => exact (shut_emptyTag _ _).append ih
  | element _ _ _ _ _ ihinner ih =>
    exact (((shut_openTag _ _).append ihinner).append (shut_closeTagWith _ _)).append ih

end Content

/-- Whatever follows the text, the first element that is found is the same. -/
def Hides (tag : String) (cs : List Char) : Prop := ∃ e, ∀ rest, element? tag (cs ++ rest) = some e

/-- Where the first text opens no element of the name, the second one counts. -/
theorem Hides.append_left {tag : String} (htag : IsName tag) {cs cs' : List Char} (hshut : Shut cs)
    (h : ¬Opens tag cs) (h' : Hides tag cs') : Hides tag (cs ++ cs') := by
  obtain ⟨e, he⟩ := h'
  refine ⟨e, fun rest => ?_⟩
  rw [List.append_assoc, (yields_of_not_opens htag hshut h).element?_append, he]

theorem hides_append_of_opens {tag : String} (htag : IsName tag) {cs cs' : List Char}
    (hshut : Shut cs) (h : ¬Opens tag cs) (h' : Opens tag cs' → Hides tag cs')
    (hopens : Opens tag (cs ++ cs')) : Hides tag (cs ++ cs') := by
  rw [opens_append_iff htag hshut] at hopens
  exact .append_left htag hshut h (h' (hopens.resolve_left h))

theorem Hides.append_right {tag : String} {cs : List Char} (h : Hides tag cs) (cs' : List Char) :
    Hides tag (cs ++ cs') := by
  obtain ⟨e, he⟩ := h
  refine ⟨e, fun rest => ?_⟩
  rw [List.append_assoc, he]

theorem hides_emptyTag {tag : String} {attributes : List Char} (h : IsAttributes attributes) :
    Hides tag (emptyTag tag attributes) :=
  ⟨_, (yields_empty h).element?_eq_some⟩

/-- An element ends with its closing tag at the latest. -/
theorem hides_element {tag : String} (htag : IsName tag) {attributes ws : List Char}
    (h : IsAttributes attributes) (hws : Blank ws) (inner : List Char) :
    Hides tag (openTag tag attributes ++ inner ++ closeTagWith tag ws) := by
  have hcloses : Closes tag (inner ++ closeTagWith tag ws) :=
    ⟨ws, hws, (List.suffix_append _ _).isInfix⟩
  obtain ⟨r, hr⟩ := Option.isSome_iff_exists.1 (untilClosing?_isSome_iff.2 hcloses)
  refine ⟨⟨attributes, r.1⟩, fun rest => ?_⟩
  have hfound := element?_openTag h (untilClosing?_append_of_some htag hr rest)
  simpa only [List.append_assoc] using hfound

/-- **An opening tag inside of contents hides all that follows them**, at whatever depth it
stands. -/
theorem Content.hides_of_opens {tag : String} (htag : IsName tag) {x : List Char}
    (h : Content IsAttributes (fun _ => False) x) (hopens : Opens tag x) : Hides tag x := by
  induction h with
  | nil => exact absurd hopens (not_opens_of_not_mem tag List.not_mem_nil)
  | text ht _ ih =>
    exact hides_append_of_opens htag (shut_of_not_mem ht) (not_opens_of_not_mem tag ht) ih hopens
  | note hpiece => exact hpiece.elim
  | @empty other attributes cs hother hattributes _ ih =>
    by_cases hsame : tag = other
    · subst hsame
      exact (hides_emptyTag hattributes).append_right cs
    · have hno := not_opens_emptyTag htag hother hsame hattributes
      exact hides_append_of_opens htag (shut_emptyTag other attributes) hno ih hopens
  | @element other attributes inner ws cs hother hattributes hinner hws _ ihinner ih =>
    by_cases hsame : tag = other
    · subst hsame
      exact (hides_element htag hattributes hws inner).append_right cs
    · have hopen := not_opens_openTag htag hother hsame hattributes
      have hclose := not_opens_closeTagWith htag hother hws
      have hshut := shut_openTag other attributes
      have hshut' := hshut.append (hinner.shut fun _ => False.elim)
      by_cases hinside : Opens tag inner
      · have hhides := Hides.append_left htag hshut hopen (ihinner hinside)
        exact (hhides.append_right _).append_right cs
      · -- the tag stands after this element
        have hno : ¬Opens tag (openTag other attributes ++ inner ++ closeTagWith other ws) := by
          rw [opens_append_iff htag hshut', opens_append_iff htag hshut]
          simp only [hopen, hinside, hclose, or_self, not_false_eq_true]
        exact hides_append_of_opens htag (hshut'.append (shut_closeTagWith other ws)) hno ih hopens

/-- Well-formed contents lose their comments, and no tag is cut off at the end of what is left. -/
theorem Content.stripComments_shut {x : List Char} (h : Content IsTail IsNote x) :
    Strips x (stripComments x) ∧ Shut (stripComments x) := by
  obtain ⟨x', hstrips, hx'⟩ := h.strips (fun _ htail => htail.noBracket) fun piece hpiece =>
    hpiece.imp IsComment.strips fun hraw => And.intro hraw hraw.strips
  rw [hstrips.stripComments_eq]
  exact ⟨hstrips, hx'.shut fun _ => IsRaw.exists_concat⟩

theorem Content.stripComments_plain {x : List Char} (h : Content IsAttributes IsComment x) :
    Content IsAttributes (fun _ => False) (stripComments x) := by
  obtain ⟨x', hstrips, hx'⟩ := h.strips (fun _ htail => htail.not_mem) fun piece hpiece =>
    .inl hpiece.strips
  rw [hstrips.stripComments_eq]
  exact hx'

end LexicalModel.Markup
