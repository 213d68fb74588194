import LexicalModel.Proofs.Failure
import LexicalModel.Proofs.WordList

/-!
# Faults in word lists

The only thing that can be wrong with a word list is a count that is no number.  Reading stops at
the first such line, and what is reported is that line: where it stands, its word, and what was
found in the place of its count.  Lines that say nothing are never at fault, but they are numbered.

* `WordList.BadCount` : a line that is at fault
* `WordList.readLine_eq` : a line is read unless it is at fault
* `WordList.FirstFault` : the first line at fault, with all that stands before it
* `WordList.readAll_eq_ok_iff`, `WordList.readAll_of_firstFault` : how several lists are read
* `WordList.message_failureAt` : what is reported
-/

namespace LexicalModel

namespace WordList

/-! ### Lines at fault -/

/-- A line that has a word, and for its count something that is no number. -/
def BadCount (line : List Char) : Prop :=
  HasWord line ∧ rawCountOn line ≠ [] ∧ ¬IsNumeral (rawCountOn line)

instance : DecidablePred IsNumeral := fun raw =>
  decidable_of_iff (count? raw ≠ none) (by rw [Ne, count?_eq_none_iff, not_not])

instance : DecidablePred BadCount := fun _ => inferInstanceAs (Decidable (_ ∧ _ ∧ _))

/-- What is wrong with a line of the given number. -/
def faultOn (number : Nat) (line : List Char) : Cause :=
  .invalidCount number (String.ofList (rawCountOn line)) (String.ofList (wordOn line))

/-- **A line is read unless it is at fault.** -/
theorem readLine_eq (number : Nat) (line : List Char) :
    readLine number line =
      if BadCount line then .error (faultOn number line) else .ok (counted? line) := by
  obtain ⟨hno, hread⟩ | ⟨hhas, hcount, hread⟩ | ⟨hhas, hraw, hnumeral, hread⟩ :=
    readLine_cases number line
  · rw [hread, if_neg fun hbad => hno hbad.1, counted?, if_neg hno]
  · have hgood : ¬BadCount line := fun hbad => hcount.elim hbad.2.1 hbad.2.2
    rw [hread, if_neg hgood, counted?, if_pos hhas]
  · rw [hread, if_pos ⟨hhas, hraw, hnumeral⟩]
    rfl

theorem readLines_of_sound {lines : List (List Char)} (h : ∀ line ∈ lines, ¬BadCount line)
    (number : Nat) : readLines number lines = .ok (lines.filterMap counted?) := by
  induction lines generalizing number with
  | nil => rfl
  | cons line rest ih =>
    obtain ⟨hline, hrest⟩ := List.forall_mem_cons.1 h
    rw [readLines, readLine_eq, if_neg hline, ok_bind, ih hrest, ok_bind, List.filterMap_cons]
    cases counted? line <;> rfl

/-- The number of the first line at fault goes up by one for every line before it. -/
theorem readLines_of_bad {front : List (List Char)} {line : List Char}
    (hfront : ∀ l ∈ front, ¬BadCount l) (hline : BadCount line) (back : List (List Char))
    (number : Nat) :
    readLines number (front ++ line :: back) = .error (faultOn (number + front.length) line) := by
  induction front generalizing number with
  | nil =>
    rw [List.nil_append, readLines, readLine_eq, if_pos hline]
    rfl
  | cons l front ih =>
    obtain ⟨hl, hfront⟩ := List.forall_mem_cons.1 hfront
    -- a line that says nothing is numbered, too
    have hnumber : number + 1 + front.length = number + (l :: front).length := by
      rw [List.length_cons]
      omega
    rw [List.cons_append, readLines, readLine_eq, if_neg hl, ok_bind, ih hfront, hnumber]
    rfl

/-! ### Lists at fault -/

/-- Some line of the list is at fault. -/
def AtFault (list : SourceFile) : Prop := ∃ line ∈ linesOf list, BadCount line

instance : DecidablePred AtFault := fun list =>
  inferInstanceAs (Decidable (∃ line ∈ linesOf list, BadCount line))

/-- What is reported of a list with a line at fault. -/
def failureAt (list : SourceFile) (number : Nat) (line : List Char) : Failure :=
  ⟨[.parseWordList list.path], faultOn number line⟩

theorem read_of_sound {list : SourceFile} (h : ¬AtFault list) :
    Result.within (.parseWordList list.path) (Result.ofCause id (read list.text)) =
      .ok ((linesOf list).filterMap counted?) := by
  have hread : read list.text = .ok ((linesOf list).filterMap counted?) :=
    readLines_of_sound (fun line hline hbad => h ⟨line, hline, hbad⟩) 1
  rw [hread]
  rfl

/-- The first line at fault: no list `before` its own has one, and no line in `front` of it is
one. -/
structure FirstFault (before : List SourceFile) (list : SourceFile) (front : List (List Char))
    (line : List Char) (back : List (List Char)) : Prop where
  /-- The lists before are sound. -/
  before : ∀ l ∈ before, ¬AtFault l
  /-- The line stands in the list. -/
  lines : linesOf list = front ++ line :: back
  /-- The lines before are sound. -/
  front : ∀ l ∈ front, ¬BadCount l
  /-- The line is not. -/
  line : BadCount line

theorem exists_first {α : Type} {p : α → Prop} [DecidablePred p] {as : List α}
    (h : ∃ a ∈ as, p a) :
    ∃ before a after, as = before ++ a :: after ∧ (∀ b ∈ before, ¬p b) ∧ p a := by
  cases hfind : as.find? (fun a => p a) with
  | none =>
    obtain ⟨a, ha, hp⟩ := h
    exact absurd hp (by simpa using List.find?_eq_none.1 hfind a ha)
  | some a =>
    obtain ⟨hp, before, after, hsplit, hbefore⟩ := List.find?_eq_some_iff_append.1 hfind
    exact ⟨before, a, after, hsplit, by simpa using hbefore, by simpa using hp⟩

theorem exists_firstFault {lists : List SourceFile} (h : ∃ list ∈ lists, AtFault list) :
    ∃ before list after front line back, lists = before ++ list :: after ∧
      FirstFault before list front line back := by
  obtain ⟨before, list, after, hsplit, hbefore, hlist⟩ := exists_first h
  obtain ⟨front, line, back, hlines, hfront, hline⟩ := exists_first hlist
  exact ⟨before, list, after, front, line, back, hsplit, hbefore, hlines, hfront, hline⟩

theorem readAll_of_sound {lists : List SourceFile} (h : ∀ list ∈ lists, ¬AtFault list) :
    readAll lists = .ok (countedIn lists) := by
  rw [readAll, mapM_eq_map fun list hlist => read_of_sound (h list hlist), ok_bind]
  rfl

/-- **Reading several lists ends at the first fault**, whatever follows. -/
theorem readAll_of_firstFault {before : List SourceFile} {list : SourceFile}
    {front back : List (List Char)} {line : List Char}
    (h : FirstFault before list front line back) (after : List SourceFile) :
    readAll (before ++ list :: after) = .error (failureAt list (front.length + 1) line) := by
  have hread : read list.text = .error (faultOn (1 + front.length) line) := by
    rw [← readLines_of_bad h.front h.line back 1, ← h.lines]
    rfl
  have hlist : Result.within (.parseWordList list.path) (Result.ofCause id (read list.text)) =
      .error (failureAt list (front.length + 1) line) := by
    rw [hread, Nat.add_comm]
    rfl
  rw [readAll, mapM_eq_error (fun l hl => ⟨_, read_of_sound (h.before l hl)⟩) hlist]
  rfl

/-- **Lists are read just where none of them is at fault**, and then they give what their lines
say. -/
theorem readAll_eq_ok_iff {lists : List SourceFile} {counted : List WordCount} :
    readAll lists = .ok counted ↔
      (∀ list ∈ lists, ¬AtFault list) ∧ counted = countedIn lists := by
  constructor
  · intro h
    have hsound : ∀ list ∈ lists, ¬AtFault list := by
      intro list hlist hfault
      obtain ⟨before, list, after, front, line, back, rfl, hfirst⟩ :=
        exists_firstFault ⟨list, hlist, hfault⟩
      rw [readAll_of_firstFault hfirst] at h
      cases h
    exact ⟨hsound, Except.ok.inj (h.symm.trans (readAll_of_sound hsound))⟩
  · rintro ⟨hsound, rfl⟩
    exact readAll_of_sound hsound

theorem eq_countedIn {lists : List SourceFile} {counted : List WordCount}
    (h : readAll lists = .ok counted) : counted = countedIn lists :=
  (readAll_eq_ok_iff.1 h).2

/-- How a line at fault is reported. -/
theorem message_failureAt (list : SourceFile) (number : Nat) (line : List Char) :
    (failureAt list number line).message =
      "parse word list " ++ list.path.text ++ ": line " ++ toString number ++
        ": invalid count '" ++ String.ofList (rawCountOn line) ++ "' for '" ++
        String.ofList (wordOn line) ++ "'" := by
  have hparts : (failureAt list number line).message =
      "parse word list " ++ list.path.text ++ ": " ++ ("line " ++ toString number ++
        ": invalid count '" ++ String.ofList (rawCountOn line) ++ "' for '" ++
        String.ofList (wordOn line) ++ "'") := by
    simp only [Failure.message, failureAt, faultOn, List.map_singleton, List.singleton_append,
      String.intercalate_cons_cons, String.intercalate_singleton]
    rfl
  rw [hparts]
  simp only [String.append_assoc]
  rfl

end WordList

end LexicalModel
