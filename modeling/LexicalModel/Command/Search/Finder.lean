import LexicalModel.Command.Pattern.Lavish

/-!
# Finding matches in lines

A finder has one or more patterns, and may ask for whole words or whole lines.  Of several matches
the leftmost counts, and of those that start together the longest.

* `Finder` : what is looked for
* `Finder.ofNotation` : the finder of patterns in one of the notations
* `Finder.find` : the first match in a line
-/

namespace LexicalModel.Command.Search

/-- The notations of patterns. -/
inductive Kind where
  /-- Basic patterns. -/
  | basic
  /-- Extended patterns. -/
  | extended
  /-- Texts that are looked for as they are. -/
  | fixed
  /-- Patterns with lookaround. -/
  | lavish
  deriving DecidableEq, Repr

/-- What is looked for. -/
structure Finder where
  /-- The patterns. -/
  matchers : List Matcher
  /-- Matches are whole words. -/
  words : Bool := false
  /-- Matches are whole lines. -/
  lines : Bool := false

/-- A match from one place to another. -/
abbrev Span := Nat × Nat

/-- Whether there is a match from one place to another. -/
def fits (m : Matcher) (text : ByteArray) (start stop : Nat) : Bool :=
  let q : Matcher.Quest :=
    { code := m.code, text, longest := false, skips := m.skips, goal := some stop }
  (Matcher.walk q Matcher.patience ⟨0, start, []⟩ [] {} none).isSome

/-- Whether no word goes on at the ends of a match. -/
def isWhole (text : ByteArray) (start stop : Nat) : Bool :=
  !wordBefore text start && !wordAt text stop

/-- The longest match that starts at a place and takes at most so many bytes, but some. -/
def longestWithin (m : Matcher) (text : ByteArray) (start : Nat) : Nat → Option Nat
  | 0 => none
  | n + 1 =>
    if fits m text start (start + n + 1) then some (n + 1) else longestWithin m text start n

/-- A match of whole words that starts at the same place as one of a length and is shorter.  What
stands before the place where the search began is taken off the length. -/
def shorter (m : Matcher) (text : ByteArray) (origin start : Nat) : Nat → Nat → Option Span
  | 0, _ => none
  | fuel + 1, length =>
    match longestWithin m text start (length - 1 - origin) with
    | none => none
    | some n =>
      if isWhole text start (start + n) then some (start, start + n)
      else shorter m text origin start fuel n

/-- The first match of whole words from a place on; at most so many places are tried.  The search
began at `origin`. -/
def findWord (m : Matcher) (text : ByteArray) (origin : Nat) : Nat → Nat → Option Span
  | 0, _ => none
  | fuel + 1, start =>
    if text.size < start then none
    else
      match m.search text start with
      | none => none
      | some found =>
        if isWhole text found.start found.stop then some (found.start, found.stop)
        else
          let length := found.stop - found.start
          match shorter m text origin found.start length length with
          | some span => some span
          | none => findWord m text origin fuel (found.start + 1)

namespace Finder

/-- The first match of one pattern from a place on. -/
def findOne (f : Finder) (text : ByteArray) (start : Nat) (m : Matcher) : Option Span :=
  if f.lines then
    if start = 0 && fits m text 0 text.size then some (0, text.size) else none
  else if f.words then findWord m text start (text.size + 1) start
  else (m.search text start).map fun found => (found.start, found.stop)

/-- The first match from a place on. -/
def find (f : Finder) (text : ByteArray) (start : Nat) : Option Span :=
  f.matchers.foldl (fun best m =>
    match best, f.findOne text start m with
    | none, found => found
    | best, none => best
    | some (a, b), some (c, d) =>
      if c < a || (c = a && b < d) then some (c, d) else some (a, b)) none

/-- Whether a line matches. -/
def matchesLine (f : Finder) (text : ByteArray) : Bool := (f.find text 0).isSome

/-- The matches in a line that are not empty; at most so many places are tried. -/
def findAll (f : Finder) (text : ByteArray) : Nat → Nat → List Span
  | 0, _ => []
  | fuel + 1, start =>
    if text.size < start then []
    else
      match f.find text start with
      | none => []
      | some (a, b) =>
        if a = b then findAll f text fuel (b + 1) else (a, b) :: findAll f text fuel b

/-- The finder of patterns in a notation. -/
def ofNotation (kind : Kind) (caseless words lines : Bool) (patterns : List Raw) :
    Except PatternError Finder := do
  match kind with
  | .fixed =>
    return { matchers := patterns.map fun r => (Pattern.ofRaw caseless r).compile true
             words, lines }
  | .lavish =>
    match patterns with
    | [r] =>
      let p ← Lavish.parse { caseless } r
      let word : Pattern := .set Dialect.wordSet
      let p : Pattern :=
        if lines then .seq (.anchor .textStart) (.seq p (.anchor .textEnd))
        else if words then .seq (.look false true word) (.seq p (.look true true word))
        else p
      return { matchers := [p.compile false] }
    | _ => throw (.other "the -P option only supports a single pattern")
  | kind =>
    let d : Dialect :=
      { extended := kind = .extended, caseless, looseInterval := kind = .extended
        repeatsAnchors := kind = .extended }
    let parsed ← patterns.mapM d.parse
    return { matchers := parsed.map fun (p, _) => p.compile true, words, lines }

end Finder

end LexicalModel.Command.Search
