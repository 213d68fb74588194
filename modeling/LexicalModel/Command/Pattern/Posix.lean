import LexicalModel.Command.Pattern.Basic

/-!
# Basic and extended patterns

The two usual notations of regular expressions.  In the basic one, groups, intervals, alternatives
and the repetitions `+` and `?` are written with a backslash; in the extended one they are special
without it.

* `Dialect` : the notation, and how strictly it is read
* `Dialect.parse` : the pattern that a notation denotes
-/

namespace LexicalModel.Command

/-- Why a notation denotes no pattern. -/
inductive PatternError where
  /-- It is ill-formed. -/
  | illFormed
  /-- There is no such class of characters. -/
  | unknownClass
  /-- There is no such collating element. -/
  | unknownElement
  /-- It ends in a backslash. -/
  | trailingBackslash
  /-- It refers to a group that is not complete. -/
  | badReference
  /-- A bracket stays open. -/
  | openBracket
  /-- A group stays open. -/
  | openGroup
  /-- An interval stays open. -/
  | openInterval
  /-- An interval has no proper bounds. -/
  | badInterval
  /-- A range runs backwards. -/
  | badRange
  /-- It is too large. -/
  | tooBig
  /-- A repetition has nothing to repeat. -/
  | nothingToRepeat
  /-- A group is closed that was not opened. -/
  | strayClose
  /-- A class of characters stands outside of brackets. -/
  | bareClass
  /-- Something that other notations complain about. -/
  | other (text : String)
  deriving DecidableEq, Repr

/-- The error in words. -/
def PatternError.words : PatternError → String
  | illFormed => "Invalid regular expression"
  | unknownClass => "Invalid character class name"
  | unknownElement => "Invalid collation character"
  | trailingBackslash => "Trailing backslash"
  | badReference => "Invalid back reference"
  | openBracket => "Unmatched [, [^, [:, [., or [="
  | openGroup => "Unmatched ( or \\("
  | openInterval => "Unmatched \\\x7b"
  | badInterval => "Invalid content of \\\x7b\\\x7d"
  | badRange => "Invalid range end"
  | tooBig => "Regular expression too big"
  | nothingToRepeat => "Invalid preceding regular expression"
  | strayClose => "Unmatched ) or \\)"
  | bareClass => "character class syntax is [[:space:]], not [:space:]"
  | other text => text

/-- A notation, and how strictly it is read. -/
structure Dialect where
  /-- The extended notation. -/
  extended : Bool := false
  /-- Small and capital letters are the same. -/
  caseless : Bool := false
  /-- A line feed ends a line inside of the text. -/
  multiline : Bool := false
  /-- A repetition with nothing before it is refused. -/
  strictRepetition : Bool := false
  /-- An interval with nothing before it, or after another repetition, is refused. -/
  strictInterval : Bool := false
  /-- An ill-formed interval stands for itself, and so does the end of a group outside of any. -/
  looseInterval : Bool := false
  /-- Conditions can be repeated. -/
  repeatsAnchors : Bool := false

namespace Dialect

/-- A part of a notation. -/
inductive Token where
  /-- The end. -/
  | stop
  /-- A character that stands for itself. -/
  | char (c : Char)
  /-- Any character. -/
  | any
  /-- A class of characters. -/
  | chars (s : ByteSet)
  /-- An opening bracket. -/
  | bracket
  /-- A repetition; `c` is how it is written. -/
  | repeats (least : Nat) (most : Option Nat) (c : Char)
  /-- The start of an interval. -/
  | interval
  /-- The end of an interval. -/
  | intervalEnd
  /-- The start of a group. -/
  | openGroup
  /-- The end of a group. -/
  | closeGroup
  /-- The next alternative. -/
  | alternative
  /-- A reference to a group. -/
  | reference (n : Nat)
  /-- A condition. -/
  | anchor (a : Anchor)

/-- The condition that `^` stands for. -/
def startAnchor (d : Dialect) : Anchor := if d.multiline then .lineStart else .textStart

/-- The condition that `$` stands for. -/
def endAnchor (d : Dialect) : Anchor := if d.multiline then .lineEnd else .textEnd

/-- The characters of words. -/
def wordSet : ByteSet := ByteSet.ofTest isWord

/-- White space. -/
def spaceSet : ByteSet := ByteSet.ofTest isSpace

/-- What a character after a backslash stands for. -/
def escaped (d : Dialect) (c : Char) : Token :=
  match c with
  | '<' => .anchor .wordStart
  | '>' => .anchor .wordEnd
  | 'b' => .anchor .wordEdge
  | 'B' => .anchor .noWordEdge
  | 'w' => .chars wordSet
  | 'W' => .chars wordSet.complement
  | 's' => .chars spaceSet
  | 'S' => .chars spaceSet.complement
  | '\x60' => .anchor .textStart
  | '\x27' => .anchor .textEnd
  | _ =>
    if '1' ≤ c && c ≤ '9' then .reference (c.toNat - 48)
    else if d.extended then .char c
    else
      match c with
      | '|' => .alternative
      | '(' => .openGroup
      | ')' => .closeGroup
      | '\x7b' => .interval
      | '\x7d' => .intervalEnd
      | '+' => .repeats 1 none '+'
      | '?' => .repeats 0 (some 1) '?'
      | _ => .char c

/-- Whether `$` is followed by the end of a branch. -/
def endsBranch (d : Dialect) : Raw → Bool
  | [] => true
  | '\\' :: c :: _ => !d.extended && (c = '|' || c = ')')
  | _ => d.extended

/-- The next part of a notation.  `caret` says that `^` is a condition there. -/
def token (d : Dialect) (caret : Bool) : Raw → Except PatternError (Token × Raw)
  | [] => .ok (.stop, [])
  | ['\\'] => .error .trailingBackslash
  | '\\' :: c :: rest => .ok (d.escaped c, rest)
  | c :: rest =>
    .ok (match c with
      | '.' => .any
      | '[' => .bracket
      | '*' => .repeats 0 none '*'
      | '^' => if d.extended || caret then .anchor d.startAnchor else .char c
      | '$' => if d.extended || d.endsBranch rest then .anchor d.endAnchor else .char c
      | _ =>
        if !d.extended then .char c
        else
          match c with
          | '|' => .alternative
          | '(' => .openGroup
          | ')' => .closeGroup
          | '\x7b' => .interval
          | '\x7d' => .intervalEnd
          | '+' => .repeats 1 none '+'
          | '?' => .repeats 0 (some 1) '?'
          | _ => .char c, rest)

/-! ### Brackets -/

/-- An element of a bracket: a character, or a set that cannot start a range. -/
inductive Element where
  /-- A character. -/
  | char (c : Char)
  /-- A set. -/
  | set (s : ByteSet)

/-- The text up to a character and a closing bracket, and the rest after them. -/
def upTo (mark : Char) : Raw → Option (Raw × Raw)
  | a :: b :: rest =>
    if a = mark && b = ']' then some ([], rest)
    else (upTo mark (b :: rest)).map fun (text, rest) => (a :: text, rest)
  | _ => none

/-- Reads an element of a bracket. -/
def element (d : Dialect) (hyphen : Bool) : Raw → Except PatternError (Element × Raw)
  | [] => .error .openBracket
  | '[' :: ':' :: rest =>
    match upTo ':' rest with
    | none => .error .openBracket
    | some (name, rest) =>
      let name := String.ofList name
      let name := if d.caseless && (name = "upper" || name = "lower") then "alpha" else name
      match classTest? name with
      | some test => .ok (.set (ByteSet.ofTest test), rest)
      | none => .error .unknownClass
  | '[' :: '=' :: rest =>
    match upTo '=' rest with
    | some ([c], rest) => .ok (.set (ByteSet.ofChar c), rest)
    | some _ => .error .unknownElement
    | none => .error .openBracket
  | '[' :: '.' :: rest =>
    match upTo '.' rest with
    | some ([c], rest) => .ok (.char c, rest)
    | some _ => .error .unknownElement
    | none => .error .openBracket
  | c :: rest =>
    if c = '-' && !hyphen && rest.head? ≠ some ']' then .error .badRange
    else .ok (.char c, rest)

/-- Reads the elements of a bracket up to its end; `first` says that none was read. -/
def elements (d : Dialect) :
    Nat → Bool → ByteSet → Raw → Except PatternError (ByteSet × Raw)
  | 0, _, _, _ => .error .openBracket
  | fuel + 1, first, set, cs => do
    match cs, first with
    | ']' :: rest, false => return (set, rest)
    | _, _ =>
      match ← d.element first cs with
      | (.set s, rest) => d.elements fuel false (set.union s) rest
      | (.char lo, rest) =>
        match rest with
        | [] => throw .openBracket
        | '-' :: ']' :: _ => d.elements fuel false (set.union (ByteSet.ofChar lo)) rest
        | '-' :: rest =>
          match ← d.element true rest with
          | (.char hi, rest) =>
            if hi < lo then throw .badRange
            else d.elements fuel false (set.union (ByteSet.range lo hi)) rest
          | (.set _, _) => throw .badRange
        | _ => d.elements fuel false (set.union (ByteSet.ofChar lo)) rest

/-- Reads a bracket after its opening. -/
def bracket (d : Dialect) (cs : Raw) : Except PatternError (ByteSet × Raw) := do
  let (negated, cs) : Bool × Raw := match cs with
    | '^' :: rest => (true, rest)
    | _ => (false, cs)
  if cs = [] then throw .illFormed
  let (set, rest) ← d.elements (cs.length + 1) true .none cs
  let set := if d.caseless then set.caseless else set
  let set := if negated then set.complement else set
  let set := if negated && d.multiline then set.minus (ByteSet.ofChar '\n') else set
  return (set, rest)

/-- Whether a bracket looks like a class that should stand in brackets. -/
def isBareClass (cs : Raw) : Bool :=
  match cs with
  | ':' :: rest =>
    match rest.takeWhile (· ≠ ']') with
    | [] => false
    | inner => inner.getLast? = some ':' && (rest.drop inner.length).head? = some ']' &&
        1 < inner.length
  | _ => false

/-! ### Intervals -/

/-- The largest number of repetitions. -/
def maxRepetitions : Nat := 32767

/-- What stands in an interval. -/
inductive Bounds where
  /-- Its bounds, and the rest after it. -/
  | range (least : Nat) (most : Option Nat) (rest : Raw)
  /-- It is no interval. -/
  | ill (e : PatternError)

/-- The end of an interval, and the rest after it. -/
def intervalEnd? (d : Dialect) : Raw → Option Raw
  | '\x7d' :: rest => if d.extended then some rest else none
  | '\\' :: '\x7d' :: rest => if d.extended then none else some rest
  | _ => none

/-- Reads an interval after its opening. -/
def bounds (d : Dialect) (cs : Raw) : Bounds :=
  let lo := cs.takeWhile isDigit
  let cs := cs.drop lo.length
  match cs with
  | ',' :: cs =>
    let hi := cs.takeWhile isDigit
    let cs := cs.drop hi.length
    match d.intervalEnd? cs with
    | some rest => .range (numeral 10 lo) (if hi = [] then none else some (numeral 10 hi)) rest
    | none => .ill (if cs = [] then .openInterval else .badInterval)
  | _ =>
    match d.intervalEnd? cs with
    | some rest =>
      if lo = [] then .ill .badInterval else .range (numeral 10 lo) (some (numeral 10 lo)) rest
    | none => .ill (if cs = [] then .openInterval else .badInterval)

/-! ### Patterns -/

/-- The groups met so far: how many were opened, and which are complete. -/
structure Groups where
  /-- How many were opened. -/
  opened : Nat := 0
  /-- Those that are complete. -/
  complete : List Nat := []

/-- A character that stands for itself. -/
def literal (d : Dialect) (c : Char) : Pattern :=
  .set (if d.caseless then (ByteSet.ofChar c).caseless else ByteSet.ofChar c)

/-- Any character. -/
def anyChar (d : Dialect) : Pattern :=
  .set (if d.multiline then ByteSet.all.minus (ByteSet.ofChar '\n') else ByteSet.all)

/-- Applies the repetitions that follow a pattern. -/
def repetitions (d : Dialect) : Nat → Pattern → Raw → Except PatternError (Pattern × Raw)
  | 0, p, cs => .ok (p, cs)
  | fuel + 1, p, cs => do
    let refuseMore (rest : Raw) : Except PatternError Unit := do
      if d.strictInterval then
        match ← d.token false rest with
        | (.repeats _ _ '*', _) | (.interval, _) => throw .nothingToRepeat
        | _ => pure ()
    match ← d.token false cs with
    | (.repeats least most _, rest) =>
      refuseMore rest
      d.repetitions fuel (.rep least most .greedy p) rest
    | (.interval, rest) =>
      match d.bounds rest with
      | .ill e => if d.looseInterval then return (p, cs) else throw e
      | .range least most rest =>
        if most.any (· < least) then throw .badInterval
        if maxRepetitions < most.getD least then throw .tooBig
        refuseMore rest
        d.repetitions fuel (.rep least most .greedy p) rest
    | _ => return (p, cs)

mutual

/-- Reads alternatives; `nested` inside of a group.  A group of one alternative cannot be referred
to in another. -/
def alternatives (d : Dialect) :
    Nat → Bool → Raw → Groups → Except PatternError (Pattern × Raw × Groups)
  | 0, _, _, _ => .error .tooBig
  | fuel + 1, nested, cs, groups => do
    let (first, rest, after) ← d.branch fuel nested true cs groups
    match ← d.token false rest with
    | (.alternative, rest) =>
      let (second, rest, last) ←
        d.alternatives fuel nested rest { after with complete := groups.complete }
      return (.alt first second, rest, { last with complete := after.complete ++ last.complete })
    | _ => return (first, rest, after)

/-- Reads one alternative; `caret` at its start. -/
def branch (d : Dialect) :
    Nat → Bool → Bool → Raw → Groups → Except PatternError (Pattern × Raw × Groups)
  | 0, _, _, _, _ => .error .tooBig
  | fuel + 1, nested, caret, cs, groups => do
    match ← d.token caret cs with
    | (.stop, _) | (.alternative, _) => return (.empty, cs, groups)
    | (.closeGroup, rest) =>
      if nested then return (.empty, cs, groups)
      else if d.looseInterval then
        let (p, rest) ← d.repetitions (rest.length + 1) (d.literal ')') rest
        let (more, rest, groups) ← d.branch fuel nested false rest groups
        return (.seq p more, rest, groups)
      else throw .strayClose
    | (token, rest) =>
      match ← d.atom fuel token cs rest groups with
      | (none, rest, groups) => d.branch fuel nested false rest groups
      | (some p, rest, groups) =>
        let (more, rest, groups) ← d.branch fuel nested false rest groups
        return (match more with
          | .empty => p
          | more => .seq p more, rest, groups)

/-- Reads what a part of a notation starts, with the repetitions after it; nothing where the part is
to be passed over. -/
def atom (d : Dialect) : Nat → Token → Raw → Raw → Groups →
    Except PatternError (Option Pattern × Raw × Groups)
  | 0, _, _, _, _ => .error .tooBig
  | fuel + 1, token, cs, rest, groups => do
    let repeated (p : Pattern) (rest : Raw) (groups : Groups) :
        Except PatternError (Option Pattern × Raw × Groups) := do
      let (p, rest) ← d.repetitions (rest.length + 1) p rest
      return (some p, rest, groups)
    match token with
    | .char c => repeated (d.literal c) rest groups
    | .any => repeated d.anyChar rest groups
    | .chars s => repeated (.set s) rest groups
    | .bracket =>
      if isBareClass rest then throw .bareClass
      let (s, rest) ← d.bracket rest
      repeated (.set s) rest groups
    | .anchor a =>
      if d.repeatsAnchors then repeated (.anchor a) rest groups
      else return (some (.anchor a), rest, groups)
    | .reference n =>
      if groups.complete.contains n then repeated (.same n d.caseless) rest groups
      else throw .badReference
    | .openGroup =>
      let index := groups.opened + 1
      let (p, rest, groups) ←
        d.alternatives fuel true rest { groups with opened := index }
      match ← d.token false rest with
      | (.closeGroup, rest) =>
        repeated (.group index p) rest { groups with complete := index :: groups.complete }
      | _ => throw .openGroup
    | .repeats _ _ c =>
      if d.extended then
        if d.strictRepetition then throw .nothingToRepeat else return (none, rest, groups)
      else repeated (d.literal c) rest groups
    | .interval =>
      if d.strictInterval || (d.extended && d.strictRepetition) then throw .nothingToRepeat
      else if d.extended then
        match d.bounds rest with
        | .range _ _ rest => return (none, rest, groups)
        | .ill e =>
          if d.looseInterval then repeated (d.literal '\x7b') rest groups else throw e
      else repeated (d.literal '\x7b') rest groups
    | .intervalEnd => repeated (d.literal '\x7d') rest groups
    | .stop | .closeGroup | .alternative => return (none, cs, groups)

end

/-- The pattern that a notation denotes, and how many groups it has. -/
def parse (d : Dialect) (cs : Raw) : Except PatternError (Pattern × Nat) := do
  let (p, rest, groups) ← d.alternatives (4 * cs.length + 8) false cs {}
  if rest ≠ [] then throw .illFormed
  return (p, groups.opened)

end Dialect

end LexicalModel.Command
