import LexicalModel.Json.Document
import LexicalModel.Json.Value
import Mathlib.Data.List.DropRight
import Mathlib.Tactic.SplitIfs

/-!
# The texts of a value

A value has many texts, which differ in the white space between their parts.  `Written` says which
they are, for values without other numbers than whole ones; and each of them is read as the node of
its value.  Strings and numbers come first, since they have one text each.

* `Written` : the texts of a value
* `Value.toNode` : the node of a value
* `readNode_written` : a value is read back from each of its texts
-/

namespace LexicalModel.Json

/-! ### Strings -/

theorem hexValue?_hexChar : ∀ n < 16, hexValue? (hexChar n) = some n := by decide

theorem hexEscape_control (atEnd : Ending) {n : Nat} (h : n < 0x20) (cs : List Char) :
    hexEscape atEnd ('0' :: '0' :: hexChar (n / 16) :: hexChar (n % 16) :: cs) = .ok (n, cs) := by
  have hzero : hexValue? '0' = some 0 := rfl
  have hhigh := hexValue?_hexChar (n / 16) (by omega)
  have hlow := hexValue?_hexChar (n % 16) (by omega)
  have hsum : ((0 * 16 + 0) * 16 + n / 16) * 16 + n % 16 = n := by omega
  simp only [hexEscape, hzero, hhigh, hlow, hsum]

/-- A character is read back from the form in which it is written. -/
theorem scanString_escapeChar (atEnd : Ending) (fuel : Nat) (text : List Char) (c : Char)
    (cs : List Char) :
    scanString atEnd (fuel + 1) (some text) (escapeChar c ++ cs) =
      scanString atEnd fuel (some (c :: text)) cs := by
  unfold escapeChar
  split_ifs with hquote hslash hb hf hn hr ht hcontrol
  any_goals subst c; rfl
  · have hlow : isLowSurrogate c.toNat = false := by
      simp only [isLowSurrogate, Bool.and_eq_false_iff, decide_eq_false_iff_not]
      omega
    have hhigh : isHighSurrogate c.toNat = false := by
      simp only [isHighSurrogate, Bool.and_eq_false_iff, decide_eq_false_iff_not]
      omega
    simp only [List.cons_append, List.nil_append, scanString, hexEscape_control atEnd hcontrol,
      hlow, hhigh]
    simp
  · simp [scanString, hquote, hslash, hcontrol]

theorem scanString_flatMap (atEnd : Ending) (s : List Char) (text rest : List Char) {fuel : Nat}
    (h : s.length < fuel) :
    scanString atEnd fuel (some text) (s.flatMap escapeChar ++ '"' :: rest) =
      .ok (some (String.ofList (text.reverse ++ s)), rest) := by
  induction s generalizing text fuel with
  | nil =>
    obtain ⟨fuel, rfl⟩ : ∃ n, fuel = n + 1 := ⟨fuel - 1, by simp at h; omega⟩
    simp [scanString]
  | cons c s ih =>
    obtain ⟨fuel, rfl⟩ : ∃ n, fuel = n + 1 := ⟨fuel - 1, by simp at h; omega⟩
    rw [List.flatMap_cons, List.append_assoc, scanString_escapeChar, ih]
    · simp
    · simpa using h

theorem length_le_flatMap_escapeChar (s : List Char) :
    s.length ≤ (s.flatMap escapeChar).length := by
  induction s with
  | nil => exact Nat.le_refl 0
  | cons c s ih =>
    have hpos : 0 < (escapeChar c).length := by
      unfold escapeChar
      split_ifs <;> exact Nat.succ_pos _
    rw [List.flatMap_cons, List.length_append, List.length_cons]
    omega

theorem stringChars_append (s : String) (rest : List Char) :
    stringChars s ++ rest = '"' :: (s.toList.flatMap escapeChar ++ '"' :: rest) := by
  simp [stringChars]

/-- A string is read back from its text. -/
theorem readString_stringChars (atEnd : Ending) (s : String) (rest : List Char) {fuel : Nat}
    (h : (stringChars s).length ≤ fuel + 1) :
    readString atEnd fuel (s.toList.flatMap escapeChar ++ '"' :: rest) = .ok (some s, rest) := by
  have hlength := length_le_flatMap_escapeChar s.toList
  simp only [stringChars, List.cons_append, List.length_cons, List.length_append,
    List.length_nil] at h
  rw [readString, scanString_flatMap atEnd s.toList [] rest (by omega)]
  simp

/-! ### Numbers -/

/-- A whole number that fits into 64 bits, signed or unsigned. -/
def Number.IsWhole : Number → Prop
  | .int n => -(Nat.pow 2 63 : Int) ≤ n ∧ n ≤ maxUnsigned
  | .double _ => False

instance : DecidablePred Number.IsWhole
  | .int n => inferInstanceAs (Decidable (-(Nat.pow 2 63 : Int) ≤ n ∧ n ≤ maxUnsigned))
  | .double _ => isFalse id

/-- Nothing that would belong to a number right before it. -/
def EndsNumber (rest : List Char) : Prop :=
  ∀ c ∈ rest.head?, c.isDigit = false ∧ c ≠ '.' ∧ c ≠ 'e' ∧ c ≠ 'E'

theorem isDigit_of_mem_decimalChars {n : Nat} {c : Char} (h : c ∈ decimalChars n) :
    c.isDigit = true :=
  Nat.isDigit_of_mem_toDigits (by decide) (by decide) h

theorem decimalChars_eq_cons (n : Nat) :
    ∃ c digits, decimalChars n = c :: digits ∧ c.isDigit = true := by
  cases hdigits : decimalChars n with
  | nil => exact absurd hdigits Nat.toDigits_ne_nil
  | cons c digits =>
    refine ⟨c, digits, rfl, isDigit_of_mem_decimalChars (n := n) ?_⟩
    rw [hdigits]
    exact List.mem_cons_self

theorem head?_decimalChars {n : Nat} (h : 0 < n) : (decimalChars n).head? ≠ some '0' := by
  induction n using Nat.strongRecOn with
  | ind n ih =>
    unfold decimalChars at *
    by_cases hn : n < 10
    · rw [Nat.toDigits_of_lt_base hn]
      simpa using Nat.ne_of_gt h
    · rw [Nat.toDigits_of_base_le (by decide) (by omega), List.head?_append]
      have hhead := ih (n / 10) (by omega) (by omega)
      cases hd : (Nat.toDigits 10 (n / 10)).head? with
      | none => exact absurd (List.head?_eq_none_iff.1 hd) Nat.toDigits_ne_nil
      | some c => simpa [hd] using hhead

theorem ofDigits_decimalChars (n : Nat) : ofDigits ((decimalChars n).map digitValue) = n := by
  have hread : Nat.ofDigitChars 10 (Nat.toDigits 10 n) 0 = n :=
    Nat.ofDigitChars_toDigits (by decide) (by decide)
  simpa [ofDigits, decimalChars, digitValue, List.foldl_map, Nat.ofDigitChars_eq_foldl,
    Nat.mul_comm] using hread

theorem readDigits_decimalChars (atEnd : Ending) (n : Nat) {rest : List Char}
    (h : EndsNumber rest) :
    readDigits atEnd (decimalChars n ++ rest) = .ok ((decimalChars n).map digitValue, rest) := by
  have hdigits : ∀ c ∈ decimalChars n, c.isDigit = true := fun c => isDigit_of_mem_decimalChars
  have hrest : rest.takeWhile Char.isDigit = [] ∧ rest.dropWhile Char.isDigit = rest := by
    cases rest with
    | nil => exact ⟨rfl, rfl⟩
    | cons c rest => simp [(h c rfl).1]
  have htake : (decimalChars n ++ rest).takeWhile Char.isDigit = decimalChars n := by
    rw [List.takeWhile_append_of_pos hdigits, hrest.1, List.append_nil]
  have hdrop : (decimalChars n ++ rest).dropWhile Char.isDigit = rest := by
    rw [List.dropWhile_append_of_pos hdigits, hrest.2]
  unfold readDigits
  rw [htake, hdrop]
  split
  · next hnil => exact absurd hnil Nat.toDigits_ne_nil
  · rfl

/-- More than one digit means that the first one is not zero. -/
theorem no_leading_zero (n : Nat) :
    ¬(1 < ((decimalChars n).map digitValue).length ∧
      ((decimalChars n).map digitValue).head? = some 0) := by
  rintro ⟨hlength, hhead⟩
  rw [List.head?_map, Option.map_eq_some_iff] at hhead
  obtain ⟨c, hc, hzero⟩ := hhead
  have hdigit := isDigit_of_mem_decimalChars (List.mem_of_head? hc)
  have hval : c.toNat = '0'.toNat := by
    simp only [Char.isDigit, Bool.and_eq_true, decide_eq_true_eq] at hdigit
    have hle : '0'.toNat ≤ c.toNat := hdigit.1
    simp only [digitValue] at hzero
    omega
  rcases Nat.eq_zero_or_pos n with rfl | hpos
  · exact absurd hlength (by decide)
  · exact head?_decimalChars hpos (hc.trans (congrArg some (Char.toNat_inj.1 hval)))

theorem readNumber_decimalChars (atEnd : Ending) (negative : Bool) (n : Nat) {rest : List Char}
    (h : EndsNumber rest) :
    readNumber atEnd negative (decimalChars n ++ rest) =
      .ok (⟨negative, (decimalChars n).map digitValue, none, none⟩, rest) := by
  have hfraction : readFraction atEnd rest = .ok (none, rest) := by
    unfold readFraction
    split
    · exact absurd rfl (h _ rfl).2.1
    · rfl
  have hexponent : readExponent atEnd rest = .ok (none, rest) := by
    unfold readExponent
    split
    · next c rest =>
      have hc := (h c rfl).2.2
      simp [hc.1, hc.2]
    · rfl
  unfold readNumber
  rw [readDigits_decimalChars atEnd n h]
  change (if _ then _ else _) = _
  rw [if_neg (no_leading_zero n)]
  rw [hfraction]
  change (readExponent atEnd rest >>= _) = _
  rw [hexponent]
  rfl

theorem value?_decimalChars {n : Nat} (h : n ≤ maxUnsigned) :
    (Literal.mk false ((decimalChars n).map digitValue) none none).value? = some (.int n) := by
  simp [Literal.value?, Literal.int?, ofDigits_decimalChars, h]

theorem value?_neg_decimalChars {n : Nat} (hpos : 0 < n) (h : n ≤ Nat.pow 2 63) :
    (Literal.mk true ((decimalChars n).map digitValue) none none).value? = some (.int (-n)) := by
  have hint : (Literal.mk true ((decimalChars n).map digitValue) none none).int? =
      some (-n : Int) := by
    rw [Literal.int?, if_neg (by simp)]
    simp only [ofDigits_decimalChars, if_true]
    rw [if_pos ⟨hpos, h⟩]
  simp only [Literal.value?, hint]

/-! ### Texts of values -/

/-- White space between the parts of a document. -/
def Blank (ws : List Char) : Prop := ∀ c ∈ ws, isSpace c = true

mutual

/-- The texts of a value that has no other numbers than whole ones, with white space wherever there
may be some. -/
inductive Written : Value → List Char → Prop
  | null : Written .null ['n', 'u', 'l', 'l']
  | true : Written (.bool true) ['t', 'r', 'u', 'e']
  | false : Written (.bool false) ['f', 'a', 'l', 's', 'e']
  | number {n : Number} : n.IsWhole → Written (.number n) n.chars
  | string (s : String) : Written (.string s) (stringChars s)
  | emptyArray {ws : List Char} : Blank ws → Written (.array []) ('[' :: ws ++ [']'])
  | array {items : List Value} {cs : List Char} :
    WrittenItems items cs → Written (.array items) ('[' :: cs ++ [']'])
  | emptyObject {ws : List Char} : Blank ws → Written (.object []) ('\x7b' :: ws ++ ['\x7d'])
  | object {members : List (String × Value)} {cs : List Char} :
    WrittenMembers members cs → Written (.object members) ('\x7b' :: cs ++ ['\x7d'])

/-- The texts of the items of an array, of which there is at least one. -/
inductive WrittenItems : List Value → List Char → Prop
  | last {v : Value} {ws cs ws' : List Char} : Blank ws → Written v cs → Blank ws' →
    WrittenItems [v] (ws ++ cs ++ ws')
  | cons {v : Value} {vs : List Value} {ws cs ws' cs' : List Char} :
    Blank ws → Written v cs → Blank ws' → WrittenItems vs cs' →
    WrittenItems (v :: vs) (ws ++ cs ++ ws' ++ ',' :: cs')

/-- The texts of the members of an object, of which there is at least one. -/
inductive WrittenMembers : List (String × Value) → List Char → Prop
  | last {k : String} {v : Value} {ws between cs ws' : List Char} : Blank ws → Blank between →
    Written v cs → Blank ws' →
    WrittenMembers [(k, v)] (ws ++ stringChars k ++ ':' :: between ++ cs ++ ws')
  | cons {k : String} {v : Value} {ms : List (String × Value)}
      {ws between cs ws' cs' : List Char} : Blank ws → Blank between →
    Written v cs → Blank ws' → WrittenMembers ms cs' →
    WrittenMembers ((k, v) :: ms)
      (ws ++ stringChars k ++ ':' :: between ++ cs ++ ws' ++ ',' :: cs')

end

/-! ### Reading written values -/

mutual

/-- The node of a value. -/
def Value.toNode : Value → Node
  | .null => .null
  | .bool b => .bool b
  | .number n => .number (some n)
  | .string s => .string (some s)
  | .array items => .array (itemNodes items) none
  | .object members => .object (memberNodes members) none

/-- The nodes of items. -/
def Value.itemNodes : List Value → List Node
  | [] => []
  | v :: vs => v.toNode :: itemNodes vs

/-- The nodes of members. -/
def Value.memberNodes : List (String × Value) → List (Option String × Node)
  | [] => []
  | (k, v) :: ms => (some k, v.toNode) :: memberNodes ms

end

open Value (itemNodes memberNodes)

theorem skipSpace_blank_append {ws : List Char} (h : Blank ws) (cs : List Char) :
    skipSpace (ws ++ cs) = skipSpace cs :=
  List.dropWhile_append_of_pos h

theorem skipSpace_cons {c : Char} (hc : isSpace c = false) (cs : List Char) :
    skipSpace (c :: cs) = c :: cs :=
  List.dropWhile_cons_of_neg (by simp [hc])

theorem endsNumber_blank_cons {ws : List Char} (h : Blank ws) {c : Char}
    (hc : c.isDigit = false ∧ c ≠ '.' ∧ c ≠ 'e' ∧ c ≠ 'E') (cs : List Char) :
    EndsNumber (ws ++ c :: cs) := by
  intro d hd
  cases ws with
  | nil =>
    cases hd
    exact hc
  | cons d' ws =>
    cases hd
    have hspace := h d List.mem_cons_self
    simp only [isSpace, Bool.or_eq_true, decide_eq_true_eq] at hspace
    rcases hspace with ((rfl | rfl) | rfl) | rfl <;> decide

theorem skipSpace_idem (cs : List Char) : skipSpace (skipSpace cs) = skipSpace cs :=
  List.dropWhile_idempotent isSpace cs

theorem readNode_skipSpace (atEnd : Ending) (fuel : Nat) (cs : List Char) :
    readNode atEnd fuel (skipSpace cs) = readNode atEnd fuel cs := by
  cases fuel with
  | zero => rfl
  | succ fuel => rw [readNode, readNode, skipSpace_idem]

theorem readNode_blank_append (atEnd : Ending) (fuel : Nat) {ws : List Char} (h : Blank ws)
    (cs : List Char) : readNode atEnd fuel (ws ++ cs) = readNode atEnd fuel cs := by
  rw [← readNode_skipSpace, skipSpace_blank_append h, readNode_skipSpace]

theorem readItems_skipSpace (atEnd : Ending) (fuel : Nat) (cs : List Char) :
    readItems atEnd fuel (skipSpace cs) = readItems atEnd fuel cs := by
  cases fuel with
  | zero => rfl
  | succ fuel => rw [readItems, readItems, readNode_skipSpace]

theorem readMembers_skipSpace (atEnd : Ending) (fuel : Nat) (cs : List Char) :
    readMembers atEnd fuel (skipSpace cs) = readMembers atEnd fuel cs := by
  cases fuel with
  | zero => rfl
  | succ fuel => rw [readMembers, readMembers, skipSpace_idem]

theorem isSpace_of_isDigit {c : Char} (h : c.isDigit = true) : isSpace c = false := by
  have hne : ∀ d : Char, d.isDigit = false → c ≠ d := by
    rintro d hd rfl
    rw [h] at hd
    cases hd
  simp [isSpace, hne]

/-- A number starts with its sign or a digit. -/
theorem chars_head {n : Number} (h : n.IsWhole) :
    ∃ c tail, n.chars = c :: tail ∧ (c = '-' ∨ c.isDigit = true) := by
  cases n with
  | double x => exact h.elim
  | int n =>
    cases n with
    | ofNat n =>
      obtain ⟨c, digits, hdigits, hc⟩ := decimalChars_eq_cons n
      exact ⟨c, digits, hdigits, .inr hc⟩
    | negSucc n => exact ⟨_, _, rfl, .inl rfl⟩

theorem readNode_digit (atEnd : Ending) (fuel : Nat) {c : Char} (h : c.isDigit = true)
    (cs : List Char) :
    readNode atEnd (fuel + 1) (c :: cs) = numberNode (readNumber atEnd false (c :: cs)) := by
  have hne : ∀ d : Char, d.isDigit = false → c ≠ d := by
    rintro d hd rfl
    rw [h] at hd
    cases hd
  rw [readNode, skipSpace_cons (by simp [isSpace, hne])]
  simp [hne, h]

theorem readNode_number (atEnd : Ending) (fuel : Nat) {n : Number} (h : n.IsWhole)
    {rest : List Char} (hrest : EndsNumber rest) :
    readNode atEnd (fuel + 1) (n.chars ++ rest) = (.number (some n), some rest) := by
  cases n with
  | double x => exact h.elim
  | int n =>
    cases n with
    | ofNat n =>
      have hn : n ≤ maxUnsigned := Int.ofNat_le.1 h.2
      have hread := readNumber_decimalChars atEnd false n hrest
      change readNode atEnd (fuel + 1) (decimalChars n ++ rest) = _
      obtain ⟨c, digits, hdigits, hc⟩ := decimalChars_eq_cons n
      rw [hdigits, List.cons_append, readNode_digit atEnd fuel hc, ← List.cons_append, ← hdigits,
        hread]
      simp only [numberNode, value?_decimalChars hn]
      rfl
    | negSucc n =>
      have hn : n + 1 ≤ Nat.pow 2 63 := by
        have hlow := h.1
        rw [Int.negSucc_eq] at hlow
        omega
      have hread := readNumber_decimalChars atEnd true (n + 1) hrest
      change readNode atEnd (fuel + 1) ('-' :: (decimalChars (n + 1) ++ rest)) = _
      change numberNode (readNumber atEnd true (decimalChars (n + 1) ++ rest)) = _
      rw [hread]
      simp only [numberNode, value?_neg_decimalChars (Nat.succ_pos n) hn]
      rfl

theorem written_head {v : Value} {cs : List Char} (h : Written v cs) :
    ∃ c tail, cs = c :: tail ∧ isSpace c = false ∧ c ≠ ']' := by
  cases h with
  | @number n h =>
    obtain ⟨c, tail, hcs, hc⟩ := chars_head h
    refine ⟨c, tail, hcs, ?_⟩
    rcases hc with rfl | hdigit
    · decide
    · exact ⟨isSpace_of_isDigit hdigit, by rintro rfl; cases hdigit⟩
  | _ => exact ⟨_, _, rfl, rfl, by decide⟩

theorem writtenItems_head {vs : List Value} {cs : List Char} (h : WrittenItems vs cs)
    (rest : List Char) : ∃ c tail, skipSpace (cs ++ rest) = c :: tail ∧ c ≠ ']' := by
  have hfirst : ∀ {v : Value} {ws cs rest : List Char}, Blank ws → Written v cs →
      ∃ c tail, skipSpace (ws ++ (cs ++ rest)) = c :: tail ∧ c ≠ ']' := by
    intro v ws cs rest hws h
    obtain ⟨c, tail, rfl, hspace, hc⟩ := written_head h
    exact ⟨c, tail ++ rest, by rw [skipSpace_blank_append hws]; exact skipSpace_cons hspace _, hc⟩
  cases h with
  | last hws h _ => simpa only [List.append_assoc] using hfirst hws h
  | cons hws h _ _ => simpa only [List.append_assoc] using hfirst hws h

theorem writtenMembers_head {ms : List (String × Value)} {cs : List Char}
    (h : WrittenMembers ms cs) (rest : List Char) :
    ∃ tail, skipSpace (cs ++ rest) = '"' :: tail := by
  cases h with
  | last hws _ _ _ =>
    simp only [List.append_assoc, skipSpace_blank_append hws, stringChars_append]
    exact ⟨_, rfl⟩
  | cons hws _ _ _ _ =>
    simp only [List.append_assoc, skipSpace_blank_append hws, stringChars_append]
    exact ⟨_, rfl⟩

/-! One step of each of the readers, where nothing is wrong. -/

section Steps

variable {atEnd : Ending} {fuel : Nat} {cs tail tail' rest : List Char}

theorem readNode_array {c : Char} {items : List Node} (hskip : skipSpace cs = c :: tail)
    (hc : c ≠ ']') (hread : readItems atEnd fuel cs = ((items, none), some rest)) :
    readNode atEnd (fuel + 1) ('[' :: cs) = (.array items none, some rest) := by
  have hdigit : '['.isDigit = false := rfl
  rw [readNode, skipSpace_cons rfl]
  simp only [hskip, Char.reduceEq, hdigit, Bool.false_eq_true, if_false, if_true]
  split
  · next h => cases h
  · next h =>
    cases h
    exact absurd rfl hc
  · rw [← hskip, readItems_skipSpace, hread]

theorem readNode_object {members : List (Option String × Node)}
    (hskip : skipSpace cs = '"' :: tail)
    (hread : readMembers atEnd fuel cs = ((members, none), some rest)) :
    readNode atEnd (fuel + 1) ('\x7b' :: cs) = (.object members none, some rest) := by
  have hdigit : '\x7b'.isDigit = false := rfl
  rw [readNode, skipSpace_cons rfl]
  simp only [hskip, Char.reduceEq, hdigit, Bool.false_eq_true, if_false, if_true]
  split
  · next h => cases h
  · next h => simp at h
  · rw [← hskip, readMembers_skipSpace, hread]

theorem readItems_last {node : Node} (hnode : readNode atEnd fuel cs = (node, some tail))
    (hskip : skipSpace tail = ']' :: rest) :
    readItems atEnd (fuel + 1) cs = (([node], none), some rest) := by
  rw [readItems, hnode]
  simp only [hskip]

theorem readItems_cons {node : Node} {nodes : List Node}
    (hnode : readNode atEnd fuel cs = (node, some tail)) (hskip : skipSpace tail = ',' :: tail')
    (hread : readItems atEnd fuel tail' = ((nodes, none), some rest)) :
    readItems atEnd (fuel + 1) cs = ((node :: nodes, none), some rest) := by
  rw [readItems, hnode]
  simp only [hskip, hread]

variable {key : Option String} {text : List Char}

theorem readMembers_last {node : Node} (hquote : skipSpace cs = '"' :: text)
    (hkey : readString atEnd fuel text = .ok (key, ':' :: tail))
    (hnode : readNode atEnd fuel tail = (node, some tail'))
    (hskip : skipSpace tail' = '\x7d' :: rest) :
    readMembers atEnd (fuel + 1) cs = (([(key, node)], none), some rest) := by
  have hcolon : skipSpace (':' :: tail) = ':' :: tail := rfl
  rw [readMembers, hquote]
  simp only [hkey, hcolon, hnode, hskip]

theorem readMembers_cons {node : Node} {nodes : List (Option String × Node)} {tail'' : List Char}
    (hquote : skipSpace cs = '"' :: text)
    (hkey : readString atEnd fuel text = .ok (key, ':' :: tail))
    (hnode : readNode atEnd fuel tail = (node, some tail'))
    (hskip : skipSpace tail' = ',' :: tail'')
    (hread : readMembers atEnd fuel tail'' = ((nodes, none), some rest)) :
    readMembers atEnd (fuel + 1) cs = (((key, node) :: nodes, none), some rest) := by
  have hcolon : skipSpace (':' :: tail) = ':' :: tail := rfl
  rw [readMembers, hquote]
  simp only [hkey, hcolon, hnode, hskip, hread]

end Steps

mutual

/-- **A value is read back from each of its texts.**  Each level of nesting costs two steps and at
least two brackets, so that the length of the text bounds the steps. -/
theorem readNode_written (atEnd : Ending) {v : Value} {cs : List Char} (h : Written v cs)
    {fuel : Nat} (hfuel : cs.length ≤ fuel) {rest : List Char} (hrest : EndsNumber rest) :
    readNode atEnd fuel (cs ++ rest) = (v.toNode, some rest) := by
  obtain ⟨fuel, rfl⟩ : ∃ n, fuel = n + 1 := by
    obtain ⟨c, tail, rfl, -⟩ := written_head h
    exact ⟨fuel - 1, by simp at hfuel; omega⟩
  cases h with
  | null => rfl
  | true => rfl
  | false => rfl
  | number h => exact readNode_number atEnd fuel h hrest
  | string s =>
    rw [stringChars_append]
    change stringNode (readString atEnd fuel _) = _
    rw [readString_stringChars atEnd s rest hfuel]
    rfl
  | @emptyArray ws h =>
    have hskip : skipSpace (ws ++ ']' :: rest) = ']' :: rest := by
      rw [skipSpace_blank_append h, skipSpace_cons rfl]
    have hdigit : '['.isDigit = false := rfl
    rw [List.append_assoc, List.cons_append, readNode, skipSpace_cons rfl]
    simp only [List.cons_append, List.nil_append, hskip, Char.reduceEq, hdigit,
      Bool.false_eq_true, if_false, if_true]
    rfl
  | @array vs inner h =>
    obtain ⟨c, tail, hskip, hc⟩ := writtenItems_head h (']' :: rest)
    have hlength : inner.length < fuel := by simp at hfuel; omega
    rw [List.append_assoc, List.cons_append]
    exact readNode_array hskip hc (readItems_written atEnd h hlength rest)
  | @emptyObject ws h =>
    have hskip : skipSpace (ws ++ '\x7d' :: rest) = '\x7d' :: rest := by
      rw [skipSpace_blank_append h, skipSpace_cons rfl]
    have hdigit : '\x7b'.isDigit = false := rfl
    rw [List.append_assoc, List.cons_append, readNode, skipSpace_cons rfl]
    simp only [List.cons_append, List.nil_append, hskip, Char.reduceEq, hdigit,
      Bool.false_eq_true, if_false, if_true]
    rfl
  | @object ms inner h =>
    obtain ⟨tail, hskip⟩ := writtenMembers_head h ('\x7d' :: rest)
    have hlength : inner.length < fuel := by simp at hfuel; omega
    rw [List.append_assoc, List.cons_append]
    exact readNode_object hskip (readMembers_written atEnd h hlength rest)

theorem readItems_written (atEnd : Ending) {vs : List Value} {cs : List Char}
    (h : WrittenItems vs cs) {fuel : Nat} (hfuel : cs.length < fuel) (rest : List Char) :
    readItems atEnd fuel (cs ++ ']' :: rest) = ((itemNodes vs, none), some rest) := by
  obtain ⟨fuel, rfl⟩ : ∃ n, fuel = n + 1 := ⟨fuel - 1, by omega⟩
  cases h with
  | @last v ws cs ws' hws h hws' =>
    have hlength : cs.length ≤ fuel := by simp at hfuel; omega
    have hends : EndsNumber (ws' ++ ']' :: rest) := endsNumber_blank_cons hws' (by decide) _
    simp only [List.append_assoc]
    refine readItems_last ((readNode_blank_append atEnd fuel hws _).trans
      (readNode_written atEnd h hlength hends)) ?_
    rw [skipSpace_blank_append hws', skipSpace_cons rfl]
  | @cons v vs ws cs ws' cs' hws h hws' hs =>
    have hlength : cs.length ≤ fuel := by simp at hfuel; omega
    have hlength' : cs'.length < fuel := by simp at hfuel; omega
    have hends : EndsNumber (ws' ++ ',' :: (cs' ++ ']' :: rest)) :=
      endsNumber_blank_cons hws' (by decide) _
    simp only [List.append_assoc, List.cons_append]
    refine readItems_cons ((readNode_blank_append atEnd fuel hws _).trans
      (readNode_written atEnd h hlength hends)) ?_ (readItems_written atEnd hs hlength' rest)
    rw [skipSpace_blank_append hws', skipSpace_cons rfl]

theorem readMembers_written (atEnd : Ending) {ms : List (String × Value)} {cs : List Char}
    (h : WrittenMembers ms cs) {fuel : Nat} (hfuel : cs.length < fuel) (rest : List Char) :
    readMembers atEnd fuel (cs ++ '\x7d' :: rest) = ((memberNodes ms, none), some rest) := by
  obtain ⟨fuel, rfl⟩ : ∃ n, fuel = n + 1 := ⟨fuel - 1, by omega⟩
  cases h with
  | @last k v ws between cs ws' hws hbetween h hws' =>
    have hkey : (stringChars k).length ≤ fuel + 1 := by simp at hfuel; omega
    have hlength : cs.length ≤ fuel := by simp at hfuel; omega
    have hends : EndsNumber (ws' ++ '\x7d' :: rest) := endsNumber_blank_cons hws' (by decide) _
    simp only [List.append_assoc, List.cons_append, stringChars_append]
    refine readMembers_last ?_ (readString_stringChars atEnd k _ hkey)
      ((readNode_blank_append atEnd fuel hbetween _).trans
        (readNode_written atEnd h hlength hends)) ?_
    · rw [skipSpace_blank_append hws, skipSpace_cons rfl]
    · rw [skipSpace_blank_append hws', skipSpace_cons rfl]
  | @cons k v ms ws between cs ws' cs' hws hbetween h hws' hs =>
    have hkey : (stringChars k).length ≤ fuel + 1 := by simp at hfuel; omega
    have hlength : cs.length ≤ fuel := by simp at hfuel; omega
    have hlength' : cs'.length < fuel := by simp at hfuel; omega
    have hends : EndsNumber (ws' ++ ',' :: (cs' ++ '\x7d' :: rest)) :=
      endsNumber_blank_cons hws' (by decide) _
    simp only [List.append_assoc, List.cons_append, stringChars_append]
    refine readMembers_cons ?_ (readString_stringChars atEnd k _ hkey)
      ((readNode_blank_append atEnd fuel hbetween _).trans
        (readNode_written atEnd h hlength hends)) ?_ (readMembers_written atEnd hs hlength' rest)
    · rw [skipSpace_blank_append hws, skipSpace_cons rfl]
    · rw [skipSpace_blank_append hws', skipSpace_cons rfl]

end

end LexicalModel.Json
