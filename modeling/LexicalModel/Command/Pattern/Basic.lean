import LexicalModel.Command.Pattern.ByteSet
import Std.Data.HashSet

/-!
# Patterns

Regular expressions over bytes, as the text filters use them.  A pattern is compiled into steps, and
the steps are walked from a place of a text; where there is a choice, the ways are tried in order.
Two rules say which match counts: the first one found, or the longest one and of those the first
found.

* `Pattern` : what a pattern is made of
* `Pattern.compile` : its steps
* `Matcher.search` : the leftmost match in a text
-/

namespace LexicalModel.Command

/-- A condition on a place in a text. -/
inductive Anchor where
  /-- The start of the text. -/
  | textStart
  /-- The end of the text. -/
  | textEnd
  /-- The start of a line. -/
  | lineStart
  /-- The end of a line. -/
  | lineEnd
  /-- An edge of a word. -/
  | wordEdge
  /-- No edge of a word. -/
  | noWordEdge
  /-- The start of a word. -/
  | wordStart
  /-- The end of a word. -/
  | wordEnd
  deriving DecidableEq, Repr

/-- How often a repetition prefers to go on. -/
inductive Greed where
  /-- As often as possible. -/
  | greedy
  /-- As rarely as possible. -/
  | lazy
  deriving DecidableEq, Repr

/-- A regular expression. -/
inductive Pattern where
  /-- Matches everywhere, and takes nothing. -/
  | empty
  /-- One byte of a set. -/
  | set (s : ByteSet)
  /-- One pattern after another. -/
  | seq (first second : Pattern)
  /-- One pattern or another. -/
  | alt (first second : Pattern)
  /-- A pattern several times. -/
  | rep (least : Nat) (most : Option Nat) (greed : Greed) (body : Pattern)
  /-- A pattern whose match is remembered. -/
  | group (index : Nat) (body : Pattern)
  /-- What a group has matched, once more. -/
  | same (index : Nat) (caseless : Bool)
  /-- A condition on the place. -/
  | anchor (a : Anchor)
  /-- A pattern that has to match, or must not, in front of the place or behind it. -/
  | look (ahead negated : Bool) (body : Pattern)
  /-- The match counts from here on. -/
  | keep
  deriving Repr

/-- A step of a compiled pattern. -/
inductive Step where
  /-- Takes a byte of a set. -/
  | set (s : ByteSet)
  /-- Goes on at one place, and if that fails at another. -/
  | split (first second : Nat)
  /-- Goes on elsewhere. -/
  | jump (next : Nat)
  /-- Remembers the place in a slot. -/
  | save (slot : Nat)
  /-- Remembers the place as the end of a group.  Where the group took nothing but has matched
  before, it is as if it had not been tried. -/
  | saveEnd (index : Nat)
  /-- Goes on elsewhere where nothing was taken since the place in a slot. -/
  | leaveIfStill (slot next : Nat)
  /-- Asks for a condition. -/
  | anchor (a : Anchor)
  /-- Takes what a group has matched. -/
  | same (index : Nat) (caseless : Bool)
  /-- Asks whether the steps that follow match, then goes on after them. -/
  | look (ahead negated : Bool) (next : Nat)
  /-- The end. -/
  | accept
  deriving Repr

namespace Pattern

/-- Patterns one after the other. -/
def ofList : List Pattern → Pattern
  | [] => empty
  | [p] => p
  | p :: ps => seq p (ofList ps)

/-- A text as it is. -/
def ofRaw (caseless : Bool) (r : Raw) : Pattern :=
  ofList (r.map fun c =>
    set (if caseless then (ByteSet.ofChar c).caseless else ByteSet.ofChar c))

/-- Whether what a pattern matches hangs on more than the place: such a pattern cannot skip places
that it has been at. -/
def remembers : Pattern → Bool
  | same .. | look .. => true
  | seq p q | alt p q => p.remembers || q.remembers
  | rep _ _ _ body | group _ body => body.remembers
  | empty | set _ | anchor _ | keep => false

/-- Whether a pattern may take nothing. -/
def nullable : Pattern → Bool
  | set _ => false
  | seq p q => p.nullable && q.nullable
  | alt p q => p.nullable || q.nullable
  | rep least _ _ body => least = 0 || body.nullable
  | group _ body => body.nullable
  | empty | same .. | anchor _ | look .. | keep => true

/-- The bytes that a match may start with, if it takes any. -/
def starts : Pattern → ByteSet
  | set s => s
  | seq p q => if p.nullable then p.starts.union q.starts else p.starts
  | alt p q => p.starts.union q.starts
  | rep _ _ _ body | group _ body => body.starts
  | same .. => ByteSet.all
  | empty | anchor _ | look .. | keep => ByteSet.none

/-- The slot in which a match starts. -/
def startSlot : Nat := 0

/-- The slot in which the place is kept that a repetition started at; beyond those of groups. -/
def markSlot (step : Nat) : Nat := 1000000 + step

/-- Adds the steps of a pattern.  `forgives` says that groups which need not match forget matches
that take nothing, and `optional` that the pattern need not match. -/
def emit (forgives optional : Bool) : Pattern → Array Step → Array Step
  | empty, code => code
  | set s, code => code.push (.set s)
  | seq p q, code => q.emit forgives false (p.emit forgives false code)
  | alt p q, code =>
    let fork := code.size
    let code := p.emit forgives false (code.push .accept)
    let leap := code.size
    let code := q.emit forgives false (code.push .accept)
    (code.set! fork (.split (fork + 1) (leap + 1))).set! leap (.jump code.size)
  | rep least most greed body, code =>
    let code := (List.range least).foldl (fun code _ => body.emit forgives false code) code
    let fork (first second : Nat) : Step :=
      if greed = .lazy then .split second first else .split first second
    match most with
    | none =>
      let guarded := body.nullable
      let loop := code.size
      let code := code.push .accept
      let code := if guarded then code.push (.save (markSlot loop)) else code
      let code := body.emit forgives true code
      let leave := code.size
      let code := if guarded then code.push .accept else code
      let code := code.push (.jump loop)
      let code := code.set! loop (fork (loop + 1) code.size)
      if guarded then code.set! leave (.leaveIfStill (markSlot loop) code.size) else code
    | some most =>
      let start := code.size
      let code := (List.range (most - least)).foldl
        (fun code _ => body.emit forgives true (code.push (.jump 0))) code
      let stop := code.size
      let patch (code : Array Step) (at_ : Nat) : Array Step :=
        match code[at_]? with
        | some (.jump 0) => code.set! at_ (fork (at_ + 1) stop)
        | _ => code
      (List.range (stop - start)).foldl (fun code k => patch code (start + k)) code
  | group index body, code =>
    let code := body.emit forgives false (code.push (.save (2 * index)))
    code.push (if forgives && optional then .saveEnd index else .save (2 * index + 1))
  | same index caseless, code => code.push (.same index caseless)
  | anchor a, code => code.push (.anchor a)
  | look ahead negated body, code =>
    let fence := code.size
    let code := (body.emit forgives false (code.push .accept)).push .accept
    code.set! fence (.look ahead negated code.size)
  | keep, code => code.push (.save startSlot)

end Pattern

/-- A pattern that is ready for searching. -/
structure Matcher where
  /-- The steps. -/
  code : Array Step
  /-- The longest match counts, not the first one. -/
  longest : Bool
  /-- Places that were reached before need not be tried again. -/
  skips : Bool
  /-- The bytes that a match starts with; nothing where it may be empty. -/
  starts : Option ByteSet

/-- The matcher of a pattern. -/
def Pattern.compile (longest : Bool) (p : Pattern) : Matcher where
  code := (p.emit longest false #[]).push .accept
  longest
  skips := !p.remembers
  starts := if p.nullable then none else some p.starts

/-- Slots and the places in them, the newest first. -/
abbrev Slots := List (Nat × Nat)

/-- Whether a slot is the end of a group. -/
def isEndSlot (slot : Nat) : Bool := slot % 2 = 1 && slot < Pattern.markSlot 0

/-- The slots as they were after the last group that took something. -/
def Slots.settled : Slots → Slots
  | [] => []
  | (slot, place) :: rest =>
    if isEndSlot slot && (rest.lookup (slot - 1)).any (· < place) then (slot, place) :: rest
    else settled rest

/-- The slots after a group that took nothing and need not have matched: those that were settled, if
it has matched before. -/
def Slots.forgiven (index place : Nat) (slots : Slots) : Slots :=
  let old := slots.settled
  if (old.lookup (2 * index + 1)).isSome then
    let marks := (slots.take (slots.length - old.length)).filter fun (slot, _) =>
      Pattern.markSlot 0 ≤ slot
    marks ++ old
  else (2 * index + 1, place) :: slots

/-- A match. -/
structure Match where
  /-- Where it starts. -/
  start : Nat
  /-- Where it ends. -/
  stop : Nat
  /-- The slots. -/
  slots : Slots

/-- Where a group starts and ends, if it has matched. -/
def Match.group? (m : Match) (index : Nat) : Option (Nat × Nat) :=
  if index = 0 then some (m.start, m.stop)
  else
    match m.slots.lookup (2 * index), m.slots.lookup (2 * index + 1) with
    | some start, some stop => some (start, stop)
    | _, _ => none

/-- The text of a group; empty where it has matched nothing. -/
def Match.groupText (m : Match) (text : ByteArray) (index : Nat) : ByteArray :=
  match m.group? index with
  | some (start, stop) => text.extract start stop
  | none => ByteArray.empty

/-- Whether a byte can be part of a word. -/
def isWordByte (b : UInt8) : Bool := isWord (charOf b)

/-- Whether a word character stands in front of a place. -/
def wordBefore (text : ByteArray) (i : Nat) : Bool :=
  i ≠ 0 && ((text[i - 1]?).map isWordByte).getD false

/-- Whether a word character stands at a place. -/
def wordAt (text : ByteArray) (i : Nat) : Bool := ((text[i]?).map isWordByte).getD false

/-- Whether a condition holds at a place. -/
def Anchor.holds (text : ByteArray) (i : Nat) : Anchor → Bool
  | textStart => i = 0
  | textEnd => i = text.size
  | lineStart => i = 0 || text[i - 1]? = some 10
  | lineEnd => i = text.size || text[i]? = some 10
  | wordEdge => wordBefore text i != wordAt text i
  | noWordEdge => wordBefore text i == wordAt text i
  | wordStart => !wordBefore text i && wordAt text i
  | wordEnd => wordBefore text i && !wordAt text i

/-- Whether some bytes of a text are the same as others of it. -/
def sameBytes (text : ByteArray) (caseless : Bool) (i j : Nat) : Nat → Bool
  | 0 => true
  | n + 1 =>
    match text[i]?, text[j]? with
    | some a, some b =>
      (a = b || (caseless && toSmall (charOf a) = toSmall (charOf b))) &&
        sameBytes text caseless (i + 1) (j + 1) n
    | _, _ => false

namespace Matcher

/-- A way that is left to be tried. -/
structure Way where
  /-- The step to go on with. -/
  step : Nat
  /-- The place. -/
  place : Nat
  /-- The slots. -/
  slots : Slots

/-- What a walk looks for. -/
structure Quest where
  /-- The steps. -/
  code : Array Step
  /-- The text. -/
  text : ByteArray
  /-- The longest match counts, not the first one. -/
  longest : Bool
  /-- Places that were reached before need not be tried again. -/
  skips : Bool
  /-- The place where a match has to end, if there is one. -/
  goal : Option Nat

/-- The end of a match, and its slots. -/
abbrev Arrival := Nat × Slots

/-- A way that leads nowhere: there is no such step. -/
def Quest.astray (q : Quest) : Way := ⟨q.code.size, 0, []⟩

/-- Walks the steps from a place; `best` is the best match so far, `seen` the choices that were met.
Where a way ends, the next one is tried.  The fuel bounds the number of steps. -/
def walk (q : Quest) : Nat → Way → List Way → Std.HashSet Nat → Option Arrival → Option Arrival
  | 0, _, _, _, best => best
  | fuel + 1, w, ways, seen, best =>
    match q.code[w.step]? with
    | none =>
      match ways with
      | [] => best
      | w :: ways => walk q fuel w ways seen best
    | some (.set s) =>
      match q.text[w.place]? with
      | some b =>
        if s.contains b then walk q fuel ⟨w.step + 1, w.place + 1, w.slots⟩ ways seen best
        else walk q fuel q.astray ways seen best
      | none => walk q fuel q.astray ways seen best
    | some (.split first second) =>
      let key := w.step * (q.text.size + 1) + w.place
      if q.skips && seen.contains key then walk q fuel q.astray ways seen best
      else
        let seen := if q.skips then seen.insert key else seen
        walk q fuel ⟨first, w.place, w.slots⟩ (⟨second, w.place, w.slots⟩ :: ways) seen best
    | some (.jump next) => walk q fuel ⟨next, w.place, w.slots⟩ ways seen best
    | some (.save slot) =>
      walk q fuel ⟨w.step + 1, w.place, (slot, w.place) :: w.slots⟩ ways seen best
    | some (.saveEnd index) =>
      let slots := if w.slots.lookup (2 * index) = some w.place then
          Slots.forgiven index w.place w.slots
        else (2 * index + 1, w.place) :: w.slots
      walk q fuel ⟨w.step + 1, w.place, slots⟩ ways seen best
    | some (.leaveIfStill slot next) =>
      let next := if w.slots.lookup slot = some w.place then next else w.step + 1
      walk q fuel ⟨next, w.place, w.slots⟩ ways seen best
    | some (.anchor a) =>
      let w := if a.holds q.text w.place then ⟨w.step + 1, w.place, w.slots⟩ else q.astray
      walk q fuel w ways seen best
    | some (.same index caseless) =>
      let next : Way := match w.slots.lookup (2 * index), w.slots.lookup (2 * index + 1) with
        | some start, some stop =>
          let size := stop - start
          if sameBytes q.text caseless start w.place size then
            ⟨w.step + 1, w.place + size, w.slots⟩
          else q.astray
        | _, _ => q.astray
      walk q fuel next ways seen best
    | some (.look ahead negated next) =>
      let found : Option Slots :=
        if ahead then
          (walk { q with longest := false, goal := none } fuel ⟨w.step + 1, w.place, w.slots⟩ []
            {} none).map (·.2)
        else
          (List.range (w.place + 1)).findSome? fun back =>
            (walk { q with longest := false, goal := some w.place } fuel
              ⟨w.step + 1, w.place - back, w.slots⟩ [] {} none).map (·.2)
      let next : Way := match found, negated with
        | some slots, false => ⟨next, w.place, slots⟩
        | none, true => ⟨next, w.place, w.slots⟩
        | _, _ => q.astray
      walk q fuel next ways seen best
    | some .accept =>
      if q.goal.any (· ≠ w.place) then walk q fuel q.astray ways seen best
      else if !q.longest || w.place = q.text.size then some (w.place, w.slots)
      else
        let best := match best with
          | some (place, slots) =>
            if place < w.place then some (w.place, w.slots) else some (place, slots)
          | none => some (w.place, w.slots)
        walk q fuel q.astray ways seen best

/-- The steps that a walk may take. -/
def patience : Nat := 100000000

/-- The match that starts at a place. -/
def matchAt (m : Matcher) (text : ByteArray) (i : Nat) : Option Match :=
  let q : Quest := { code := m.code, text, longest := m.longest, skips := m.skips, goal := none }
  (walk q patience ⟨0, i, []⟩ [] {} none).map fun (stop, slots) =>
    { start := (slots.lookup Pattern.startSlot).getD i, stop, slots }

/-- The first match that starts at one of so many places. -/
def searchFrom (m : Matcher) (text : ByteArray) : Nat → Nat → Option Match
  | 0, _ => none
  | n + 1, i =>
    let starts : Bool := match m.starts with
      | none => true
      | some s => ((text[i]?).map s.contains).getD false
    if starts then
      match m.matchAt text i with
      | some found => some found
      | none => searchFrom m text n (i + 1)
    else searchFrom m text n (i + 1)

/-- The leftmost match from a place of a text on. -/
def search (m : Matcher) (text : ByteArray) (from_ : Nat) : Option Match :=
  m.searchFrom text (text.size + 1 - from_) from_

end Matcher

end LexicalModel.Command
