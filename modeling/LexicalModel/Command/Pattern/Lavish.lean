import LexicalModel.Command.Pattern.Posix

/-!
# Patterns with lookaround

A richer notation of regular expressions: lazy repetitions, groups that are not remembered,
conditions on what stands before or after a place, and options that hold from where they stand to
the end of their group.

* `Lavish.parse` : the pattern that a notation denotes
-/

namespace LexicalModel.Command.Lavish

/-- The options that hold at a place. -/
structure Mode where
  /-- Small and capital letters are the same. -/
  caseless : Bool := false
  /-- `^` and `$` hold at every line. -/
  multiline : Bool := false
  /-- `.` takes line feeds too. -/
  dotAll : Bool := false

/-- What was read: a pattern, the rest, the options that hold after it and how many groups were
opened. -/
structure Reading where
  /-- The pattern. -/
  pattern : Pattern
  /-- The rest. -/
  rest : Raw
  /-- The options that hold after it. -/
  mode : Mode
  /-- How many groups were opened. -/
  opened : Nat

/-- A set, with the options applied. -/
def Mode.set (m : Mode) (s : ByteSet) : Pattern := .set (if m.caseless then s.caseless else s)

/-- The class that a letter after a backslash stands for. -/
def classOf? : Char → Option ByteSet
  | 'd' => some (ByteSet.ofTest isDigit)
  | 'D' => some (ByteSet.ofTest isDigit).complement
  | 'w' => some Dialect.wordSet
  | 'W' => some Dialect.wordSet.complement
  | 's' => some Dialect.spaceSet
  | 'S' => some Dialect.spaceSet.complement
  | _ => none

/-- The condition that a letter after a backslash stands for. -/
def anchorOf? : Char → Option Anchor
  | 'b' => some .wordEdge
  | 'B' => some .noWordEdge
  | 'A' => some .textStart
  | 'z' => some .textEnd
  | _ => none

/-- The character that an escape stands for, and the rest after it. -/
def escapedChar (c : Char) (rest : Raw) : Except PatternError (Char × Raw) :=
  match c with
  | 'a' => .ok ('\x07', rest)
  | 'e' => .ok ('\x1b', rest)
  | 'f' => .ok ('\x0c', rest)
  | 'n' => .ok ('\n', rest)
  | 'r' => .ok ('\r', rest)
  | 't' => .ok ('\t', rest)
  | 'x' =>
    let ds := (rest.take 2).takeWhile isHex
    .ok (Char.ofNat (numeral 16 ds), rest.drop ds.length)
  | '0' =>
    let ds := (rest.take 2).takeWhile isOctal
    .ok (Char.ofNat (numeral 8 ds), rest.drop ds.length)
  | _ =>
    if isLetter c then .error (.other "unrecognized character follows \\") else .ok (c, rest)

/-! ### Brackets -/

/-- An element of a bracket, and the rest. -/
def element (cs : Raw) : Except PatternError (Dialect.Element × Raw) :=
  match cs with
  | [] => .error (.other "missing terminating ] for character class")
  | '[' :: ':' :: rest =>
    match Dialect.upTo ':' rest with
    | some (name, after) =>
      let (negated, name) : Bool × Raw := match name with
        | '^' :: name => (true, name)
        | _ => (false, name)
      match String.ofList name with
      | "word" =>
        .ok (.set (if negated then Dialect.wordSet.complement else Dialect.wordSet), after)
      | name =>
        match classTest? name with
        | some test =>
          let s := ByteSet.ofTest test
          .ok (.set (if negated then s.complement else s), after)
        | none => .error (.other "unknown POSIX class name")
    | none => .ok (.char '[', ':' :: rest)
  | '\\' :: c :: rest =>
    match classOf? c with
    | some s => .ok (.set s, rest)
    | none =>
      if c = 'b' then .ok (.char '\x08', rest)
      else if isOctal c then
        let ds := ((c :: rest).take 3).takeWhile isOctal
        .ok (.char (Char.ofNat (numeral 8 ds % 256)), (c :: rest).drop ds.length)
      else (escapedChar c rest).map fun (c, rest) => (.char c, rest)
  | ['\\'] => .error (.other "\\ at end of pattern")
  | c :: rest => .ok (.char c, rest)

/-- The elements of a bracket up to its end. -/
def elements : Nat → Bool → ByteSet → Raw → Except PatternError (ByteSet × Raw)
  | 0, _, _, _ => .error (.other "missing terminating ] for character class")
  | fuel + 1, first, set, cs => do
    match cs, first with
    | ']' :: rest, false => return (set, rest)
    | _, _ =>
      match ← element cs with
      | (.set s, rest) => elements fuel false (set.union s) rest
      | (.char lo, '-' :: rest) =>
        if rest.head? = some ']' then
          elements fuel false (set.union (ByteSet.ofChar lo)) ('-' :: rest)
        else
          match ← element rest with
          | (.char hi, rest) =>
            if hi < lo then throw (.other "range out of order in character class")
            else elements fuel false (set.union (ByteSet.range lo hi)) rest
          | (.set s, rest) =>
            elements fuel false ((set.union s).union
              ((ByteSet.ofChar lo).union (ByteSet.ofChar '-'))) rest
      | (.char lo, rest) => elements fuel false (set.union (ByteSet.ofChar lo)) rest

/-- Reads a bracket after its opening. -/
def bracket (m : Mode) (cs : Raw) : Except PatternError (Pattern × Raw) := do
  let (negated, cs) : Bool × Raw := match cs with
    | '^' :: rest => (true, rest)
    | _ => (false, cs)
  let (set, rest) ← elements (cs.length + 1) true .none cs
  let set := if m.caseless then set.caseless else set
  return (.set (if negated then set.complement else set), rest)

/-! ### Repetitions -/

/-- The bounds in braces, if they are some, and the rest. -/
def bounds? (cs : Raw) : Option (Nat × Option Nat × Raw) :=
  let lo := cs.takeWhile isDigit
  if lo = [] then none
  else
    match cs.drop lo.length with
    | '\x7d' :: rest => some (numeral 10 lo, some (numeral 10 lo), rest)
    | ',' :: cs =>
      let hi := cs.takeWhile isDigit
      match cs.drop hi.length with
      | '\x7d' :: rest =>
        some (numeral 10 lo, if hi = [] then none else some (numeral 10 hi), rest)
      | _ => none
    | _ => none

/-- The bounds of the repetition in front of a rest, if there is one. -/
def repetition? : Raw → Option (Nat × Option Nat × Raw)
  | '*' :: rest => some (0, none, rest)
  | '+' :: rest => some (1, none, rest)
  | '?' :: rest => some (0, some 1, rest)
  | '\x7b' :: rest => bounds? rest
  | _ => none

/-- Applies the repetitions that follow a pattern. -/
def repeated (p : Pattern) (rest : Raw) : Except PatternError (Pattern × Raw) :=
  match repetition? rest with
  | none => .ok (p, rest)
  | some (least, most, after) =>
    if most.any (· < least) then .error (.other "numbers out of order in \x7b\x7d quantifier")
    else
      match after with
      | '?' :: after => .ok (.rep least most .lazy p, after)
      | after => .ok (.rep least most .greedy p, after)

/-! ### Groups -/

/-- What the start of a group says. -/
inductive Opening where
  /-- A group that is remembered. -/
  | capture
  /-- A group that is not remembered. -/
  | plain
  /-- A condition on what stands before or after the place. -/
  | look (ahead negated : Bool)
  /-- Options for a group. -/
  | options (m : Mode)
  /-- Options for the rest of the group around it. -/
  | setting (m : Mode)

/-- Changes options by letters. -/
def readMode (on : Bool) (m : Mode) : Raw → Mode × Raw
  | 'i' :: cs => readMode on { m with caseless := on } cs
  | 'm' :: cs => readMode on { m with multiline := on } cs
  | 's' :: cs => readMode on { m with dotAll := on } cs
  | '-' :: cs => if on then readMode false m cs else (m, '-' :: cs)
  | '^' :: cs => readMode on {} cs
  | cs => (m, cs)

/-- Reads the start of a group after its parenthesis. -/
def opening (m : Mode) (cs : Raw) : Except PatternError (Opening × Raw) :=
  match cs with
  | '?' :: rest =>
    match rest with
    | ':' :: rest => .ok (.plain, rest)
    | '=' :: rest => .ok (.look true false, rest)
    | '!' :: rest => .ok (.look true true, rest)
    | '<' :: '=' :: rest => .ok (.look false false, rest)
    | '<' :: '!' :: rest => .ok (.look false true, rest)
    | _ =>
      match readMode true m rest with
      | (m, ')' :: rest) => .ok (.setting m, rest)
      | (m, ':' :: rest) => .ok (.options m, rest)
      | _ => .error (.other "unrecognized character after (? or (?-")
  | _ => .ok (.capture, cs)

/-! ### Patterns -/

/-- The group that a reference means, where so many were opened, and the rest. -/
def reference? (opened : Nat) (c : Char) (rest : Raw) : Option (Nat × Raw) :=
  let ds := (c :: rest).takeWhile isDigit
  if '1' ≤ c && c ≤ '9' && (ds.length = 1 || numeral 10 ds ≤ opened) then
    some (numeral 10 ds, (c :: rest).drop ds.length)
  else none

/-- What stands after a backslash. -/
def escape (m : Mode) (opened : Nat) (c : Char) (rest : Raw) :
    Except PatternError (Pattern × Raw) :=
  match classOf? c, anchorOf? c, reference? opened c rest with
  | some s, _, _ => .ok (.set s, rest)
  | _, some a, _ => .ok (.anchor a, rest)
  | _, _, some (n, rest) => .ok (.same n m.caseless, rest)
  | none, none, none =>
    if c = 'K' then .ok (.keep, rest)
    else if isOctal c then
      let ds := ((c :: rest).take 3).takeWhile isOctal
      .ok (m.set (.ofChar (Char.ofNat (numeral 8 ds % 256))), (c :: rest).drop ds.length)
    else (escapedChar c rest).map fun (c, rest) => (m.set (.ofChar c), rest)

mutual

/-- Reads alternatives. -/
def alternatives : Nat → Mode → Raw → Nat → Except PatternError Reading
  | 0, _, _, _ => .error .tooBig
  | fuel + 1, m, cs, opened => do
    let first ← branch fuel m cs opened
    match first.rest with
    | '|' :: rest =>
      let second ← alternatives fuel first.mode rest first.opened
      return { second with pattern := .alt first.pattern second.pattern }
    | _ => return first

/-- Reads one alternative. -/
def branch : Nat → Mode → Raw → Nat → Except PatternError Reading
  | 0, _, _, _ => .error .tooBig
  | fuel + 1, m, cs, opened => do
    match cs with
    | [] | '|' :: _ | ')' :: _ => return ⟨.empty, cs, m, opened⟩
    | _ =>
      let front ← atom fuel m cs opened
      let more ← branch fuel front.mode front.rest front.opened
      return { more with pattern := .seq front.pattern more.pattern }

/-- Reads one part of a pattern with the repetitions after it. -/
def atom : Nat → Mode → Raw → Nat → Except PatternError Reading
  | 0, _, _, _ => .error .tooBig
  | fuel + 1, m, cs, opened => do
    let finish (p : Pattern) (rest : Raw) (opened : Nat) : Except PatternError Reading := do
      let (p, rest) ← repeated p rest
      return ⟨p, rest, m, opened⟩
    match cs with
    | [] => return ⟨.empty, [], m, opened⟩
    | ['\\'] => throw (.other "\\ at end of pattern")
    | '\\' :: c :: rest =>
      let (p, rest) ← escape m opened c rest
      finish p rest opened
    | '.' :: rest =>
      let s := if m.dotAll then ByteSet.all else (ByteSet.ofChar '\n').complement
      finish (.set s) rest opened
    | '^' :: rest =>
      finish (.anchor (if m.multiline then .lineStart else .textStart)) rest opened
    | '$' :: rest => finish (.anchor (if m.multiline then .lineEnd else .textEnd)) rest opened
    | '[' :: rest =>
      let (p, rest) ← bracket m rest
      finish p rest opened
    | '(' :: rest =>
      let (o, rest) ← opening m rest
      match o with
      | .setting m => return ⟨.empty, rest, m, opened⟩
      | o =>
        let index := opened + 1
        let (inner, opened) : Mode × Nat := match o with
          | .capture => (m, index)
          | .options inner => (inner, opened)
          | _ => (m, opened)
        let body ← alternatives fuel inner rest opened
        match body.rest with
        | ')' :: rest =>
          let p : Pattern := match o with
            | .capture => .group index body.pattern
            | .look ahead negated => .look ahead negated body.pattern
            | _ => body.pattern
          finish p rest body.opened
        | _ => throw (.other "missing closing parenthesis")
    | c :: rest =>
      if c = '*' || c = '+' || c = '?' then
        throw (.other "quantifier does not follow a repeatable item")
      finish (m.set (.ofChar c)) rest opened

end

/-- The pattern that a notation denotes. -/
def parse (m : Mode) (cs : Raw) : Except PatternError Pattern := do
  let r ← alternatives (4 * cs.length + 8) m cs 0
  if r.rest ≠ [] then throw (.other "unmatched closing parenthesis")
  return r.pattern

end LexicalModel.Command.Lavish
