import LexicalModel.Path.Basic
import LexicalModel.Proofs.Text.Bytes
import Mathlib.Data.List.DropRight

/-!
# Components of paths that are put together and taken apart

Paths are compared by their components, but put together and taken apart as spellings.  Here the two
are tied together: an entry of a directory has one component more than the directory, whatever
separators and idle pieces the spellings have, and the parent has one component less.

* `Path.components_join`, `Path.components_entry` : the components of a path below another, and of
  an entry
* `Path.components_of_parent?`, `Path.exists_parent?_eq` : the components of the parent
-/

namespace LexicalModel

namespace Path

/-- The pieces of a spelling between separators. -/
abbrev piecesOf (cs : List UInt8) : List (List UInt8) := cs.splitOnP (· = slash)

/-- What a spelling denotes. -/
def spelled (cs : List UInt8) : List Component :=
  (split cs).1.components ++ piecesComponents (split cs).2

theorem components_eq (p : Path) : p.components = spelled p.spelling := rfl

@[simp] theorem piecesComponents_append (ps qs : List (List UInt8)) :
    piecesComponents (ps ++ qs) = piecesComponents ps ++ piecesComponents qs := by
  simp [piecesComponents]

theorem piecesComponents_singleton {piece : List UInt8} (h : isIdle piece = false) :
    piecesComponents [piece] = [Component.ofPart piece] := by
  simp [piecesComponents, h]

/-! ### Spellings with a separator -/

theorem split_root (cs : List UInt8) : split (slash :: cs) = (.root, piecesOf cs) := rfl

theorem split_of_ne {c : UInt8} (hc : c ≠ slash) (cs : List UInt8) :
    split (c :: cs) = match piecesOf (c :: cs) with
      | [dot] :: rest => (.current, rest)
      | pieces => (.relative, pieces) := by
  unfold split
  split
  · next h => exact absurd (List.cons.inj h).1 hc
  · rfl

theorem split_append_cons {front : List UInt8} (h : front ≠ []) (cs : List UInt8) :
    split (front ++ slash :: cs) = ((split front).1, (split front).2 ++ piecesOf cs) := by
  obtain ⟨c, rest, rfl⟩ := List.exists_cons_of_ne_nil h
  by_cases hc : c = slash
  · subst hc
    rw [List.cons_append, split_root, split_root, piecesOf,
      List.splitOnP_append_cons _ _ (by simp)]
  · rw [List.cons_append, split_of_ne hc, split_of_ne hc, ← List.cons_append, piecesOf,
      List.splitOnP_append_cons _ _ (by simp)]
    -- a leading `.` shows in the first piece, which does not depend on what is appended
    obtain ⟨first, more, hfirst⟩ :=
      List.exists_cons_of_ne_nil (List.splitOnP_ne_nil (· = slash) (c :: rest))
    rw [piecesOf, hfirst, List.cons_append]
    split
    · next he =>
      obtain ⟨rfl, rfl⟩ := List.cons.inj he
      rfl
    · next hne =>
      split
      · next he =>
        obtain ⟨rfl, rfl⟩ := List.cons.inj he
        exact absurd rfl (hne _)
      · rfl

theorem spelled_append_cons {front : List UInt8} (h : front ≠ []) (cs : List UInt8) :
    spelled (front ++ slash :: cs) = spelled front ++ piecesComponents (piecesOf cs) := by
  simp [spelled, split_append_cons h]

theorem spelled_root (cs : List UInt8) :
    spelled (slash :: cs) = .root :: piecesComponents (piecesOf cs) := by
  simp [spelled, split_root, Lead.components]

/-! ### Entries -/

/-- A name that denotes an entry of a directory. -/
def IsEntryName (name : String) : Prop :=
  name.toList ≠ [] ∧ '/' ∉ name.toList ∧ name.toList ≠ ['.'] ∧ name.toList ≠ ['.', '.']

/-- Bytes that denote an entry of a directory. -/
def IsName (bs : List UInt8) : Prop := bs ≠ [] ∧ slash ∉ bs ∧ bs ≠ [dot] ∧ bs ≠ [dot, dot]

theorem slash_mem_charBytes {cs : List Char} : slash ∈ Text.Utf8.charBytes cs ↔ '/' ∈ cs :=
  Text.Utf8.mem_charBytes_iff (c := '/') (by decide)

theorem isName_bytes {name : String} : IsName (Text.Utf8.bytes name) ↔ IsEntryName name := by
  have heq : ∀ cs, Text.Utf8.bytes name = Text.Utf8.charBytes cs ↔ name.toList = cs := fun _ =>
    Text.Utf8.charBytes_injective.eq_iff
  rw [IsName, IsEntryName, Text.Utf8.bytes, slash_mem_charBytes]
  exact and_congr (heq []).not (and_congr .rfl (and_congr (heq ['.']).not (heq ['.', '.']).not))

theorem IsName.piecesOf_eq {bs : List UInt8} (h : IsName bs) : piecesOf bs = [bs] :=
  List.splitOnP_eq_singleton fun b hb => by
    simpa using fun he : b = slash => h.2.1 (he ▸ hb)

theorem IsName.ofPart_eq {bs : List UInt8} (h : IsName bs) : Component.ofPart bs = .name bs := by
  rw [Component.ofPart, if_neg h.2.2.1, if_neg h.2.2.2]

theorem ofChars_eq (part : List Char) :
    Component.ofChars part =
      if part = ['.'] then .current else if part = ['.', '.'] then .parent
      else .name (Text.Utf8.charBytes part) := by
  have heq : ∀ cs, Text.Utf8.charBytes part = Text.Utf8.charBytes cs ↔ part = cs := fun _ =>
    Text.Utf8.charBytes_injective.eq_iff
  simp only [← heq]
  rfl

theorem IsName.piecesComponents_eq {bs : List UInt8} (h : IsName bs) :
    piecesComponents (piecesOf bs) = [.name bs] := by
  rw [h.piecesOf_eq, piecesComponents_singleton (by simp [isIdle, h.1, h.2.2.1]), h.ofPart_eq]

theorem IsName.exists_cons {bs : List UInt8} (h : IsName bs) :
    ∃ b rest, bs = b :: rest ∧ b ≠ slash := by
  obtain ⟨b, rest, rfl⟩ := List.exists_cons_of_ne_nil h.1
  refine ⟨b, rest, rfl, ?_⟩
  rintro rfl
  exact h.2.1 List.mem_cons_self

theorem IsName.spelled_eq {bs : List UInt8} (h : IsName bs) : spelled bs = [.name bs] := by
  obtain ⟨b, rest, hbs, hb⟩ := h.exists_cons
  have hsplit : split bs = (.relative, [bs]) := by
    rw [hbs, split_of_ne hb, ← hbs, h.piecesOf_eq]
    split
    · next he => exact absurd (List.cons.inj he).1 h.2.2.1
    · rfl
  rw [spelled, hsplit, ← h.piecesOf_eq, h.piecesComponents_eq]
  rfl

theorem IsName.isAbsolute_eq {bs : List UInt8} (h : IsName bs) : isAbsolute ⟨bs⟩ = false := by
  obtain ⟨b, rest, rfl, hb⟩ := h.exists_cons
  simpa [isAbsolute] using hb

/-- What a relative path adds to a path before it; the separators in between do not count. -/
theorem components_join {p q : Path} (hp : p.spelling ≠ []) (hq : q.isAbsolute = false) :
    (p.join q).components = p.components ++ piecesComponents (piecesOf q.spelling) := by
  simp only [join, hq, Bool.false_eq_true, ↓reduceIte]
  split_ifs with hend
  · -- the spelling of the first path ends with a separator
    have hlast : p.spelling.getLast? = some slash := by simpa [hp] using hend
    obtain ⟨front, hfront⟩ := List.getLast?_eq_some_iff.1 hlast
    rw [components_eq, components_eq, hfront, List.append_assoc, List.singleton_append]
    by_cases hempty : front = []
    · subst hempty
      rw [List.nil_append, List.nil_append, spelled_root, spelled_root]
      rfl
    · rw [spelled_append_cons hempty, spelled_append_cons hempty]
      simp [piecesComponents, isIdle]
  · rw [components_eq, components_eq, spelled_append_cons hp]

theorem join_of_empty {p q : Path} (hp : p.spelling = []) : p.join q = q := by
  unfold join
  split_ifs with hq hend
  · rfl
  · rw [hp, List.nil_append]
  · simp [hp] at hend

/-- **An entry has one component more than its directory.** -/
theorem components_entry (p : Path) {name : String} (h : IsEntryName name) :
    (p.entry name).components = p.components ++ [.name (Text.Utf8.bytes name)] := by
  have hname := isName_bytes.2 h
  by_cases hp : p.spelling = []
  · have hempty : p.components = [] := by
      rw [components_eq, hp]
      rfl
    rw [entry, join_of_empty hp, hempty]
    exact hname.spelled_eq
  · rw [entry, ofText, components_join hp hname.isAbsolute_eq, hname.piecesComponents_eq]

/-! ### Parents -/

/-- Nothing that separates stands between separators. -/
theorem eq_false_of_mem_splitOnP {α : Type} {sep : α → Bool} {cs piece : List α}
    (h : piece ∈ cs.splitOnP sep) : ∀ c ∈ piece, sep c = false := by
  induction cs generalizing piece with
  | nil =>
    rw [List.splitOnP_nil, List.mem_singleton] at h
    simp [h]
  | cons c cs ih =>
    rw [List.splitOnP_cons_eq_if_modifyHead] at h
    split_ifs at h with hc
    · rcases List.mem_cons.1 h with rfl | h
      · simp
      · exact ih h
    · obtain ⟨first, more, hfirst⟩ := List.exists_cons_of_ne_nil (List.splitOnP_ne_nil sep cs)
      rw [hfirst] at h ih
      rcases List.mem_cons.1 h with rfl | h
      · exact List.forall_mem_cons.2 ⟨by simpa using hc, ih List.mem_cons_self⟩
      · exact ih (List.mem_cons_of_mem _ h)

theorem not_mem_of_mem_piecesOf {cs piece : List UInt8} (h : piece ∈ piecesOf cs) :
    slash ∉ piece := by
  intro hslash
  simpa using eq_false_of_mem_splitOnP h slash hslash

theorem piecesOf_joinPieces {pieces : List (List UInt8)} (hne : pieces ≠ [])
    (h : ∀ piece ∈ pieces, slash ∉ piece) : piecesOf (joinPieces pieces) = pieces := by
  induction pieces with
  | nil => exact absurd rfl hne
  | cons piece rest ih =>
    have hpiece : ∀ c ∈ piece, decide (c = slash) = false := by
      intro c hc
      simpa using fun he : c = slash => h piece List.mem_cons_self (he ▸ hc)
    cases rest with
    | nil => exact List.splitOnP_eq_singleton hpiece
    | cons next rest =>
      have hrest := ih (by simp) fun q hq => h q (List.mem_cons_of_mem _ hq)
      rw [joinPieces, piecesOf, List.splitOnP_append_cons_of_forall_mem hpiece _ (by simp)]
      · exact congrArg (piece :: ·) hrest
      · simp

/-- A lead and pieces that can be told apart again once they are spelled: no piece has a separator
in it, and a relative path does not start like another kind of path. -/
def Tellable (lead : Lead) (pieces : List (List UInt8)) : Prop :=
  (∀ piece ∈ pieces, slash ∉ piece) ∧
    (lead = .relative → ∀ first ∈ pieces.head?, first ≠ [] ∧ first ≠ [dot])

theorem tellable_split {cs : List UInt8} (h : cs ≠ []) : Tellable (split cs).1 (split cs).2 := by
  obtain ⟨c, rest, rfl⟩ := List.exists_cons_of_ne_nil h
  by_cases hc : c = slash
  · subst hc
    exact ⟨fun piece hp => not_mem_of_mem_piecesOf hp, fun hl => by cases hl⟩
  · rw [split_of_ne hc]
    split
    · next more he =>
      refine ⟨fun piece hp => ?_, fun hl => by cases hl⟩
      have hmem : piece ∈ piecesOf (c :: rest) := he ▸ List.mem_cons_of_mem _ hp
      exact not_mem_of_mem_piecesOf hmem
    · next hne =>
      refine ⟨fun piece hp => not_mem_of_mem_piecesOf hp, fun _ first hfirst => ⟨?_, ?_⟩⟩
      · -- the first piece starts with `c`
        rintro rfl
        rw [piecesOf, List.splitOnP_cons_eq_if_modifyHead, if_neg (by simpa using hc)] at hfirst
        obtain ⟨piece, more, hmore⟩ :=
          List.exists_cons_of_ne_nil (List.splitOnP_ne_nil (· = slash) rest)
        rw [hmore] at hfirst
        cases hfirst
      · rintro rfl
        obtain ⟨more, hmore⟩ := List.head?_eq_some_iff.1 hfirst
        exact hne more hmore

theorem Tellable.mono {lead : Lead} {ps qs : List (List UInt8)} (h : Tellable lead qs)
    (hp : ps <+: qs) : Tellable lead ps := by
  obtain ⟨rest, rfl⟩ := hp
  refine ⟨fun piece hp => h.1 piece (List.mem_append_left _ hp), fun hl first hfirst => ?_⟩
  obtain ⟨more, rfl⟩ := List.head?_eq_some_iff.1 hfirst
  exact h.2 hl first rfl

theorem Tellable.dropLast {lead : Lead} {pieces : List (List UInt8)} (h : Tellable lead pieces) :
    Tellable lead pieces.dropLast :=
  h.mono <| List.dropLast_prefix pieces

theorem Tellable.dropIdleEnd {lead : Lead} {pieces : List (List UInt8)}
    (h : Tellable lead pieces) : Tellable lead (Path.dropIdleEnd pieces) :=
  h.mono <| List.rdropWhile_prefix isIdle pieces

/-- Pieces are told apart if the first of them shows that the path is relative. -/
theorem split_joinPieces {first : List UInt8} {rest : List (List UInt8)}
    (h : ∀ piece ∈ first :: rest, slash ∉ piece) (hnil : first ≠ []) (hdot : first ≠ [dot]) :
    split (joinPieces (first :: rest)) = (.relative, first :: rest) := by
  obtain ⟨c, more, hfirst⟩ := List.exists_cons_of_ne_nil hnil
  have hc : c ≠ slash := by
    rintro rfl
    exact h first List.mem_cons_self (hfirst ▸ List.mem_cons_self)
  obtain ⟨tail, htail⟩ : ∃ tail, joinPieces (first :: rest) = c :: tail := by
    cases rest <;> simp [joinPieces, hfirst]
  rw [htail, split_of_ne hc, ← htail, piecesOf_joinPieces (List.cons_ne_nil first rest) h]
  split
  · next he => exact absurd (List.cons.inj he).1 hdot
  · rfl

theorem spelled_spell {lead : Lead} {pieces : List (List UInt8)} (h : Tellable lead pieces) :
    spelled (spell lead pieces) = lead.components ++ piecesComponents pieces := by
  cases lead with
  | relative =>
    cases pieces with
    | nil => rfl
    | cons first rest =>
      obtain ⟨hnil, hdot⟩ := h.2 rfl first rfl
      rw [spell, spelled, split_joinPieces h.1 hnil hdot]
  | root =>
    rw [spell, spelled_root]
    cases pieces with
    | nil => rfl
    | cons first rest =>
      rw [piecesOf_joinPieces (List.cons_ne_nil first rest) h.1]
      rfl
  | current =>
    cases pieces with
    | nil => rfl
    | cons first rest =>
      have hdot : spelled [dot] = [.current] := rfl
      have hjoin : spell .current (first :: rest) = [dot] ++ slash :: joinPieces (first :: rest) :=
        rfl
      rw [hjoin, spelled_append_cons (List.cons_ne_nil _ _), hdot,
        piecesOf_joinPieces (List.cons_ne_nil first rest) h.1]
      rfl

theorem filter_dropWhile_idle (pieces : List (List UInt8)) :
    (pieces.dropWhile isIdle).filter (fun p => !isIdle p) = pieces.filter fun p => !isIdle p := by
  induction pieces with
  | nil => rfl
  | cons piece rest ih =>
    by_cases h : isIdle piece = true
    · simp [h, ih]
    · simp [h]

@[simp] theorem piecesComponents_dropIdleEnd (pieces : List (List UInt8)) :
    piecesComponents (dropIdleEnd pieces) = piecesComponents pieces := by
  rw [piecesComponents, piecesComponents, dropIdleEnd, List.filter_reverse, filter_dropWhile_idle,
    List.filter_reverse, List.reverse_reverse]

theorem parent?_of_nil {p : Path} (h : dropIdleEnd (split p.spelling).2 = []) :
    p.parent? = if (split p.spelling).1 = .current then some ⟨[]⟩ else none := by
  simp only [parent?, h]

theorem parent?_of_ne_nil {p : Path} (h : dropIdleEnd (split p.spelling).2 ≠ []) :
    p.parent? = some ⟨spell (split p.spelling).1
      (dropIdleEnd (dropIdleEnd (split p.spelling).2).dropLast)⟩ := by
  obtain ⟨piece, rest, hkept⟩ := List.exists_cons_of_ne_nil h
  simp only [parent?, hkept]

/-- **The parent has one component less.** -/
theorem components_of_parent? {p q : Path} (h : p.parent? = some q) :
    ∃ c, p.components = q.components ++ [c] := by
  by_cases hkept : dropIdleEnd (split p.spelling).2 = []
  · -- nothing but a leading `.`
    rw [parent?_of_nil hkept] at h
    split_ifs at h with hlead
    cases h
    refine ⟨.current, ?_⟩
    rw [components, ← piecesComponents_dropIdleEnd, hkept, hlead]
    rfl
  · -- the last piece is not idle, so it is the component that the parent lacks
    rw [parent?_of_ne_nil hkept] at h
    cases h
    have hlast : isIdle ((dropIdleEnd (split p.spelling).2).getLast hkept) = false :=
      Bool.eq_false_iff.2 (List.rdropWhile_last_not isIdle _ hkept)
    have hspelling : p.spelling ≠ [] := by
      intro hnil
      rw [hnil] at hkept
      exact hkept rfl
    have htell : Tellable (split p.spelling).1
        (dropIdleEnd (dropIdleEnd (split p.spelling).2).dropLast) :=
      (((tellable_split hspelling).dropIdleEnd).dropLast).dropIdleEnd
    have hspelled : components ⟨spell (split p.spelling).1
          (dropIdleEnd (dropIdleEnd (split p.spelling).2).dropLast)⟩ =
        (split p.spelling).1.components ++
          piecesComponents (dropIdleEnd (split p.spelling).2).dropLast := by
      rw [components_eq, spelled_spell htell, piecesComponents_dropIdleEnd]
    refine ⟨Component.ofPart ((dropIdleEnd (split p.spelling).2).getLast hkept), ?_⟩
    rw [hspelled, List.append_assoc, ← piecesComponents_singleton hlast,
      ← piecesComponents_append, List.dropLast_append_getLast, piecesComponents_dropIdleEnd]
    rfl

theorem fileName?_eq_some_iff {p : Path} {n : List UInt8} :
    p.fileName? = some n ↔ ∃ cs, p.components = cs ++ [.name n] := by
  rw [← List.getLast?_eq_some_iff]
  unfold fileName?
  constructor
  · intro h
    split at h
    · next m hlast =>
      cases h
      exact hlast
    · cases h
  · intro h
    rw [h]

theorem fileText?_eq_some_iff {p : Path} {n : String} :
    p.fileText? = some n ↔ p.fileName? = some (Text.Utf8.bytes n) := by
  rw [fileText?, Option.bind_eq_some_iff]
  simp only [Text.Utf8.text?_eq_some_iff, exists_eq_right]

/-- A path that ends in a name lies in the directory of the components before. -/
theorem exists_parent?_eq {p : Path} {cs : List Component} {n : List UInt8}
    (h : p.components = cs ++ [.name n]) : ∃ q, p.parent? = some q ∧ q.components = cs := by
  have hkept : dropIdleEnd (split p.spelling).2 ≠ [] := by
    -- else there is nothing but the lead, which is no name
    intro hnil
    rw [components, ← piecesComponents_dropIdleEnd, hnil] at h
    have hmem : Component.name n ∈ (split p.spelling).1.components ++ piecesComponents [] := by
      rw [h]
      simp
    cases hlead : (split p.spelling).1 <;>
      simp [hlead, Lead.components, piecesComponents] at hmem
  have hparent := parent?_of_ne_nil hkept
  obtain ⟨c, hc⟩ := components_of_parent? hparent
  exact ⟨_, hparent, (List.append_inj_left' (h.symm.trans hc) rfl).symm⟩

end Path

end LexicalModel
