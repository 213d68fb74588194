import LexicalModel.Package.Markup
import Mathlib.Data.List.DropRight
import Mathlib.Tactic.FinCases
import Mathlib.Tactic.SplitIfs

/-!
# Texts in markup

Four characters cannot stand for themselves in a text and are written as references.  Reading a text
cuts off the white space around it and then resolves the references, which gives the text again if
it has no white space at its ends.

* `escape` : a text as it is written
* `unescape_escape` : resolving the references gives the text again
* `trimChars_padded` : cutting off the white space around a text
* `unpadded_escape` : writing a text puts no white space at its ends
-/

namespace LexicalModel.Markup

/-- What is taken of a text up to the first quote, bracket or the like. -/
theorem takeWhile_ne_append {d : Char} {piece : List Char} (h : d ∉ piece) (rest : List Char) :
    (piece ++ d :: rest).takeWhile (· ≠ d) = piece := by
  have hall : ∀ c ∈ piece, decide (c ≠ d) = true := fun c hc =>
    decide_eq_true fun he => h (he ▸ hc)
  rw [List.takeWhile_append_of_pos hall]
  simp

/-! ### References -/

/-- A character as it stands in a written text. -/
def escapeChar (c : Char) : List Char :=
  if c = '&' then ['&', 'a', 'm', 'p', ';']
  else if c = '<' then ['&', 'l', 't', ';']
  else if c = '>' then ['&', 'g', 't', ';']
  else if c = '"' then ['&', 'q', 'u', 'o', 't', ';']
  else [c]

/-- A written text. -/
def escape (s : String) : List Char := s.toList.flatMap escapeChar

theorem unescapeFrom_escapeChar (c : Char) (cs : List Char) :
    unescapeFrom 0 (escapeChar c ++ cs) = c :: unescapeFrom 0 cs := by
  unfold escapeChar
  split_ifs with hamp hlt hgt hquote
  any_goals subst c; rfl
  rw [List.singleton_append, unescapeFrom, if_neg hamp]

/-- Resolving the references of a written text gives the text again. -/
theorem unescape_escape (s : String) : unescape (escape s) = s.toList := by
  have hall : ∀ cs : List Char, unescapeFrom 0 (cs.flatMap escapeChar) = cs := by
    intro cs
    induction cs with
    | nil => rfl
    | cons c cs ih => rw [List.flatMap_cons, unescapeFrom_escapeChar, ih]
  exact hall s.toList

theorem mem_escapeChar {c d : Char} (h : d ∈ escapeChar c) : d ≠ '<' ∧ d ≠ '>' ∧ d ≠ '"' := by
  unfold escapeChar at h
  split_ifs at h with hamp hlt hgt hquote
  case neg =>
    rw [List.mem_singleton] at h
    subst h
    exact ⟨hlt, hgt, hquote⟩
  all_goals fin_cases h <;> decide

/-- No bracket and no quote stands in a written text. -/
theorem mem_escape {s : String} {d : Char} (h : d ∈ escape s) : d ≠ '<' ∧ d ≠ '>' ∧ d ≠ '"' := by
  obtain ⟨c, -, hd⟩ := List.mem_flatMap.1 h
  exact mem_escapeChar hd

/-! ### White space around a text -/

/-- There is no white space at either end. -/
def Unpadded (cs : List Char) : Prop :=
  (∀ c ∈ cs.head?, Text.isBlank c = false) ∧ ∀ c ∈ cs.getLast?, Text.isBlank c = false

/-- Nothing but white space. -/
def Blank (ws : List Char) : Prop := ∀ c ∈ ws, Text.isBlank c = true

theorem dropWhile_of_head {cs : List Char} (h : ∀ c ∈ cs.head?, Text.isBlank c = false) :
    cs.dropWhile Text.isBlank = cs := by
  cases cs with
  | nil => rfl
  | cons c cs => exact List.dropWhile_cons_of_neg (by simp [h c rfl])

theorem trimChars_padded {ws cs ws' : List Char} (hws : Blank ws) (hcs : Unpadded cs)
    (hws' : Blank ws') : Text.trimChars (ws ++ cs ++ ws') = cs := by
  have hfront : (ws ++ cs ++ ws').dropWhile Text.isBlank = (cs ++ ws').dropWhile Text.isBlank := by
    rw [List.append_assoc, List.dropWhile_append_of_pos hws]
  have hback : Blank ws'.reverse := fun c hc => hws' c (List.mem_reverse.1 hc)
  unfold Text.trimChars
  rw [hfront]
  cases cs with
  | nil => simp [List.dropWhile_eq_nil_iff.2 hws']
  | cons c cs =>
    have hhead : (c :: cs ++ ws').dropWhile Text.isBlank = c :: cs ++ ws' :=
      dropWhile_of_head hcs.1
    have hlast : (c :: cs).reverse.dropWhile Text.isBlank = (c :: cs).reverse :=
      dropWhile_of_head (by rw [List.head?_reverse]; exact hcs.2)
    rw [hhead, List.reverse_append, List.dropWhile_append_of_pos hback, hlast,
      List.reverse_reverse]

theorem trimChars_blank {ws : List Char} (h : Blank ws) : Text.trimChars ws = [] := by
  have hnil : Unpadded [] := by simp [Unpadded]
  simpa using trimChars_padded h hnil (show Blank [] by simp [Blank])

theorem head_of_dropWhile {cs : List Char} (h : cs.length ≤ (cs.dropWhile Text.isBlank).length) :
    ∀ c ∈ cs.head?, Text.isBlank c = false := by
  cases cs with
  | nil => simp
  | cons c cs =>
    intro d hd
    cases hd
    by_contra hblank
    have hle := List.length_dropWhile_le Text.isBlank cs
    rw [List.dropWhile_cons_of_pos (by simpa using hblank), List.length_cons] at h
    omega

/-- A text that trimming leaves as it is has no white space at its ends. -/
theorem unpadded_of_trimChars {cs : List Char} (h : Text.trimChars cs = cs) : Unpadded cs := by
  have hlength := congrArg List.length h
  rw [Text.trimChars, List.length_reverse] at hlength
  have hfront := List.length_dropWhile_le Text.isBlank cs
  have hback := List.length_dropWhile_le Text.isBlank (cs.dropWhile Text.isBlank).reverse
  rw [List.length_reverse] at hback
  have hhead : ∀ c ∈ cs.head?, Text.isBlank c = false := head_of_dropWhile (by omega)
  refine ⟨hhead, ?_⟩
  rw [← List.head?_reverse]
  refine head_of_dropWhile ?_
  rw [dropWhile_of_head hhead] at hlength
  rw [List.length_reverse, hlength]

theorem escapeChar_ends {c : Char} (h : Text.isBlank c = false) : Unpadded (escapeChar c) := by
  unfold escapeChar
  split_ifs
  case neg => simpa [Unpadded] using h
  all_goals
    constructor <;> intro d hd <;> cases hd <;> decide

theorem escapeChar_ne_nil (c : Char) : escapeChar c ≠ [] := by
  unfold escapeChar
  split_ifs <;> exact List.cons_ne_nil _ _

theorem unpadded_escape {s : String} (h : Unpadded s.toList) : Unpadded (escape s) := by
  unfold escape
  obtain ⟨hhead, hlast⟩ := h
  constructor
  · cases hs : s.toList with
    | nil => simp
    | cons c cs =>
      rw [List.flatMap_cons, List.head?_append_of_ne_nil _ (escapeChar_ne_nil c)]
      exact (escapeChar_ends (hhead c (by simp [hs]))).1
  · cases hs : s.toList using List.reverseRecOn with
    | nil => simp
    | append_singleton cs c =>
      rw [List.flatMap_append, List.flatMap_singleton,
        List.getLast?_append_of_ne_nil _ (escapeChar_ne_nil c)]
      exact (escapeChar_ends (hlast c (by simp [hs]))).2

end LexicalModel.Markup
