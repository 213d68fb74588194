import LexicalModel.Command.Edit.Reader
import LexicalModel.Command.Machine

/-!
# Running scripts

A script is run once for each line.  There are two spaces, one for the line that is worked on and
one in which text is kept; what is to be written after a line waits in a queue.

* `Editor` : the state of a run
* `Editor.run` : runs a script over files
-/

namespace LexicalModel.Command.Edit

/-- A text that is worked on or kept. -/
structure Space where
  /-- The text. -/
  text : ByteArray := ByteArray.empty
  /-- The line ended with a line feed. -/
  ended : Bool := true

/-- How a run is to go. -/
structure Setting where
  /-- Lines are not written by themselves. -/
  quiet : Bool := false
  /-- Lines end with a zero byte. -/
  zeroEnds : Bool := false
  /-- The width of listed lines. -/
  width : Nat := 70

/-- The byte that ends a line. -/
def Setting.delimiter (s : Setting) : UInt8 := if s.zeroEnds then 0 else 10

/-- Whether a range has begun. -/
inductive Range where
  /-- It has not. -/
  | idle
  /-- It has, and ends at a line if its end is a number. -/
  | active (stop : Option Nat)

/-- What waits to be written. -/
inductive Waiting where
  /-- A text. -/
  | text (r : ByteArray)
  /-- A file. -/
  | file (name : Raw)

/-- A file that is read. -/
structure Source where
  /-- Its name. -/
  name : Raw
  /-- Its channel. -/
  channel : Nat
  /-- What was read of it and not used. -/
  buffer : ByteArray := ByteArray.empty
  /-- Where what was not used begins. -/
  offset : Nat := 0
  /-- There is nothing more to read. -/
  exhausted : Bool := false

/-- The state of a run. -/
structure Editor where
  /-- The line that is worked on. -/
  line : Space := {}
  /-- The text that is kept. -/
  kept : Space := {}
  /-- The number of the line. -/
  number : Nat := 0
  /-- The ranges of the commands. -/
  ranges : Array Range
  /-- There was a replacement since the last line was read. -/
  replaced : Bool := false
  /-- What waits to be written, the newest first. -/
  waiting : List Waiting := []
  /-- What was written. -/
  out : ByteArray := ByteArray.empty
  /-- The last line that was written lacks its line feed. -/
  owed : Bool := false
  /-- The same for files that lines are written to. -/
  owedTo : List Sink := []
  /-- The files that lines are written to, and their channels. -/
  sinks : List (Raw × Nat) := []
  /-- The file that is read. -/
  source : Option Source := none
  /-- The files that come next. -/
  files : List Raw
  /-- The pattern that was used last. -/
  last : Option Matcher := none
  /-- The status at the end. -/
  status : Nat := 0

/-- Why a run ends at once. -/
structure Abort where
  /-- The words about it. -/
  words : Raw
  /-- The status. -/
  status : Nat

/-- A part of a run. -/
abbrev Run := ExceptT Abort (StateT Editor Action)

namespace Editor

/-- An action of the process. -/
def act {α : Type} (a : Action α) : Run α := ExceptT.mk do
  let x ← (a : StateT Editor Action α)
  return .ok x

/-- Writes what was written so far. -/
def flush (p : Process) : Run Unit := do
  let e ← get
  set { e with out := ByteArray.empty }
  act (p.out e.out)

/-- Writes bytes after the end of a line that is owed. -/
def write (s : Setting) (bytes : ByteArray) : Run Unit :=
  modify fun e =>
    let out := if e.owed then e.out.push s.delimiter else e.out
    { e with out := out ++ bytes, owed := false }

/-- Writes a line, and its end if it had one. -/
def writeLine (s : Setting) (line : Space) : Run Unit := do
  write s line.text
  if line.ended then modify fun e => { e with out := e.out.push s.delimiter }
  else modify fun e => { e with owed := true }

/-- Writes a line to a sink. -/
def writeTo (p : Process) (s : Setting) (sink : Sink) (line : Space) : Run Unit := do
  let e ← get
  let owed := e.owedTo.contains sink
  let bytes := if owed then (ByteArray.mk #[s.delimiter]) ++ line.text else line.text
  let bytes := if line.ended then bytes.push s.delimiter else bytes
  let owedTo := e.owedTo.filter (· ≠ sink)
  set { e with owedTo := if line.ended then owedTo else sink :: owedTo }
  match sink with
  | .standard => modify fun e => { e with out := e.out ++ bytes }
  | .mistakes => do
    let _ ← act (p.put 2 bytes)
  | .file name =>
    match e.sinks.lookup name with
    | some i => do
      let _ ← act (modifyGet (·.put i bytes))
    | none => return

/-! ### Input -/

/-- How much is read at once. -/
def chunk : Nat := 4096

/-- The place of a byte from an offset on; at most so many places are looked at. -/
def indexOf (bytes : ByteArray) (b : UInt8) : Nat → Nat → Option Nat
  | 0, _ => none
  | n + 1, i => if bytes.get! i = b then some i else indexOf bytes b n (i + 1)

/-- Reads on until a delimiter from `scanned` on; its place, if it is there. -/
def fill (delimiter : UInt8) : Nat → Nat → Source → Action (Except OsError (Option Nat × Source))
  | 0, _, s => return .ok (none, s)
  | fuel + 1, scanned, s => do
    match indexOf s.buffer delimiter (s.buffer.size - scanned) scanned with
    | some i => return .ok (some i, s)
    | none =>
      if s.exhausted then return .ok (none, s)
      else
        match ← modifyGet (·.take s.channel chunk) with
        | .error e => return .error e
        | .ok bytes =>
          if bytes.size = 0 then return .ok (none, { s with exhausted := true })
          else
            let kept := if s.offset = 0 then s.buffer else s.buffer.extract s.offset s.buffer.size
            let scanned := kept.size
            fill delimiter fuel scanned { s with buffer := kept ++ bytes, offset := 0 }

/-- How often a source may be read from. -/
def patience : Nat := 1000000000

/-- The next line of a source, and whether it ended; nothing at its end. -/
def lineOf (delimiter : UInt8) (s : Source) :
    Action (Except OsError (Option (ByteArray × Bool) × Source)) := do
  match ← fill delimiter patience s.offset s with
  | .error e => return .error e
  | .ok (some i, s) =>
    return .ok (some (s.buffer.extract s.offset i, true), { s with offset := i + 1 })
  | .ok (none, s) =>
    if s.offset < s.buffer.size then
      return .ok (some (s.buffer.extract s.offset s.buffer.size, false),
        { s with offset := s.buffer.size })
    else return .ok (none, s)

/-- Opens a file by name. -/
def openSource (p : Process) (name : Raw) : Action (Except OsError Source) := do
  if name = ['-'] then
    match p.descriptors.lookup 0 with
    | some channel => return .ok { name, channel }
    | none => return .error .badDescriptor
  else
    match (← get).openFile p.cwd p.descriptors name .reading with
    | .ok (channel, m) =>
      set m
      return .ok { name, channel }
    | .error e => return .error e

/-- Opens the next file that can be opened; whether there was one. -/
def openNext (p : Process) : List Raw → Run Bool
  | [] => return false
  | name :: files => do
    modify fun e => { e with files }
    match ← act (openSource p name) with
    | .error err =>
      flush p
      act (p.complain ("can't read ".toList ++ name ++ ": ".toList ++ err.words.toList))
      modify fun e => { e with status := 2 }
      openNext p files
    | .ok source =>
      modify fun e => { e with source := some source }
      return true

/-- The next line of the input; nothing at its end. -/
def nextLine (p : Process) (s : Setting) : Nat → Run (Option (ByteArray × Bool))
  | 0 => return none
  | fuel + 1 => do
    let e ← get
    match e.source with
    | none => if ← openNext p e.files then nextLine p s fuel else return none
    | some source =>
      set { e with source := none }
      match ← act (lineOf s.delimiter source) with
      | .error err =>
        throw ⟨"read error on ".toList ++ source.name ++ ": ".toList ++ err.words.toList, 4⟩
      | .ok (line, source) =>
        modify fun e => { e with source := some source }
        match line with
        | some line => return some line
        | none =>
          modify fun e => { e with source := none }
          nextLine p s fuel

/-- Whether there is more to read in a source, and the source. -/
def hasMore (source : Source) : Action (Bool × Source) := do
  if source.offset < source.buffer.size then return (true, source)
  else if source.exhausted then return (false, source)
  else
    match ← modifyGet (·.take source.channel chunk) with
    | .error _ => return (true, source)
    | .ok bytes =>
      if bytes.size = 0 then return (false, { source with exhausted := true })
      else return (true, { source with buffer := bytes, offset := 0 })

/-- Drops files that hold nothing; whether there are others. -/
def filesWithData (p : Process) : List Raw → Run Bool
  | [] => do
    modify fun e => { e with files := [] }
    return false
  | name :: files => do
    match ← act (openSource p name) with
    | .error err =>
      flush p
      act (p.complain ("can't read ".toList ++ name ++ ": ".toList ++ err.words.toList))
      modify fun e => { e with status := 2 }
      filesWithData p files
    | .ok source =>
      if name = ['-'] then
        modify fun e => { e with files := name :: files }
        return true
      let (more, _) ← act (hasMore source)
      if more then
        modify fun e => { e with files := name :: files }
        return true
      else filesWithData p files

/-- Whether the line is the last one. -/
def isLast (p : Process) : Run Bool := do
  let e ← get
  match e.source with
  | none => return !(← filesWithData p e.files)
  | some source =>
    let (more, source) ← act (hasMore source)
    modify fun e => { e with source := some source }
    if more then return false else return !(← filesWithData p e.files)

/-- Writes what waits. -/
def dumpWaiting (p : Process) (s : Setting) : Run Unit := do
  let waiting := (← get).waiting.reverse
  modify fun e => { e with waiting := [] }
  waiting.forM fun w => do
    match w with
    | .text bytes => write s bytes
    | .file name =>
      let bytes ← act (p.readFile name)
      match bytes with
      | .ok bytes => write s bytes
      | .error _ => write s ByteArray.empty

/-- Reads the next line into the line space, behind what it holds if `more`; whether there was
one. -/
def readLine (p : Process) (s : Setting) (more : Bool) : Run Bool := do
  dumpWaiting p s
  match ← nextLine p s patience with
  | none => return false
  | some (text, ended) =>
    modify fun e =>
      let old := e.line.text
      let e := { e with line := {} }
      let text := if more then old.push s.delimiter ++ text else text
      { e with line := ⟨text, ended⟩, number := e.number + 1, replaced := false }
    return true

/-! ### Conditions -/

/-- The words for an empty pattern before any other was used. -/
def noPattern : Raw := "-e expression #1, char 0: no previous regular expression".toList

/-- Whether a pattern matches from a place of the line on. -/
def search (rx : Rx) (from_ : Nat) : Run (Option Match) := do
  let e ← get
  match rx.or e.last with
  | none => throw ⟨noPattern, 1⟩
  | some m =>
    set { e with last := some m }
    return m.search e.line.text from_

/-- Whether the line has an address. -/
def isAt (p : Process) : Address → Run Bool
  | .line n => return (← get).number = n
  | .step first step => do
    let n := (← get).number
    return first ≤ n && (n - first) % step = 0
  | .last => isLast p
  | .pattern rx => return (← search rx 0).isSome

/-- Notes the state of a range. -/
def setRange (i : Nat) (r : Range) : Run Unit :=
  modify fun e => { e with ranges := e.ranges.set! i r }

/-- Whether a command works on the line. -/
def applies (p : Process) (i : Nat) (k : Condition) : Run Bool := do
  match k.start with
  | none => return true
  | some start =>
    match k.stop with
    | none => isAt p start
    | some stop =>
      let n := (← get).number
      let toLine (m : Nat) : Run Bool := do
        if m ≤ n then setRange i .idle
        return n ≤ m
      match (← get).ranges[i]? with
      | some (.active (some m)) => toLine m
      | some (.active none) =>
        match stop with
        | .address (.line m) => toLine m
        | .address a =>
          if ← isAt p a then setRange i .idle
          return true
        | _ => return true
      | _ =>
        if ← isAt p start then
          match stop with
          | .address (.line m) => if n < m then setRange i (.active none)
          | .after m => if m ≠ 0 then setRange i (.active (some (n + m)))
          | .multiple m => if m ≠ 0 then setRange i (.active (some (n + m - n % m)))
          | .address _ => setRange i (.active none)
          return true
        else return false

/-! ### Substitution -/

/-- A text with its letters changed.  What is no character becomes the highest byte where letters
are changed. -/
def cased (k : Casing) (text : ByteArray) : ByteArray :=
  let apply (l : Letters) (b : UInt8) : UInt8 := match l with
    | .same => b
    | .capital => if b < 128 then byteOf (toCapital (charOf b)) else 255
    | .small => if b < 128 then byteOf (toSmall (charOf b)) else 255
  if k.all = .same && k.first = .same then text
  else
    match text.toList with
    | [] => text
    | b :: bs =>
      let first := if k.first = .same then k.all else k.first
      ByteArray.mk (apply first b :: bs.map (apply k.all)).toArray

/-- A replacement with the texts of groups; `pending` is a casing of a first letter that found no
letter yet. -/
def expand (text : ByteArray) (m : Match) : Letters → Replacement → ByteArray → ByteArray
  | _, [], out => out
  | pending, part :: parts, out =>
    let own := part.casing.first ≠ .same
    let k := if own then part.casing else { part.casing with first := pending }
    let (out, k) : ByteArray × Casing :=
      if part.text = [] then (out, k)
      else (out ++ cased k part.text.toBytes, { k with first := .same })
    match part.group with
    | none => expand text m .same parts out
    | some g =>
      let found := m.groupText text g
      if found.size = 0 then expand text m (if own then k.first else .same) parts out
      else expand text m .same parts (out ++ cased k found)

/-- The line with its matches replaced from a place on: what was put together, and whether a match
was replaced.  `count` matches were met, the last of them ended at `stop`. -/
def replaceFrom (matcher : Matcher) (work : Substitution) (text : ByteArray) :
    Nat → Nat → Nat → Option Nat → ByteArray → Bool → ByteArray × Bool
  | 0, start, _, _, out, done => (out ++ text.extract start text.size, done)
  | fuel + 1, start, count, stop, out, done =>
    if text.size < start then (out, done)
    else
      match matcher.search text start with
      | none => (out ++ text.extract start text.size, done)
      | some m =>
        let out := out ++ text.extract start m.start
        let isEmpty := m.start = m.stop
        -- nothing right behind a match is no match
        let counts := !(isEmpty && stop = some m.start)
        let count := if counts then count + 1 else count
        let hit := counts && work.number.getD 1 ≤ count
        let out := if hit then expand text m .same work.replacement out
          else out ++ text.extract m.start m.stop
        let done := done || hit
        let (out, next) :=
          if isEmpty then (out ++ text.extract m.stop (m.stop + 1), m.stop + 1) else (out, m.stop)
        if hit && !work.everywhere then
          (out ++ text.extract (min next text.size) text.size, done)
        else replaceFrom matcher work text fuel next count (some m.stop) out done

/-- Replaces in the line. -/
def substitute (p : Process) (s : Setting) (work : Substitution) : Run Unit := do
  let e ← get
  match work.pattern.or e.last with
  | none => throw ⟨noPattern, 1⟩
  | some m =>
    set { e with last := some m }
    let text := e.line.text
    let (out, done) := replaceFrom m work text (text.size + 2) 0 0 none ByteArray.empty false
    if done then
      modify fun e => { e with line := { e.line with text := out }, replaced := true }
      if work.prints then writeLine s (← get).line
      match work.sink with
      | some sink => writeTo p s sink (← get).line
      | none => return

/-! ### Commands -/

/-- How the work on a line goes on. -/
inductive Outcome where
  /-- With a command. -/
  | go (step : Nat)
  /-- With the next line. -/
  | finish
  /-- With the next line, and this one is not written. -/
  | drop
  /-- From the first command on, with the line as it is. -/
  | again
  /-- Not at all; the line may be written. -/
  | quit (status : Nat) (writes : Bool)

/-- How a byte is listed. -/
def listed (b : UInt8) : Raw :=
  match charOf b with
  | '\\' => ['\\', '\\']
  | '\x07' => ['\\', 'a']
  | '\x08' => ['\\', 'b']
  | '\x0c' => ['\\', 'f']
  | '\n' => ['\\', 'n']
  | '\r' => ['\\', 'r']
  | '\t' => ['\\', 't']
  | '\x0b' => ['\\', 'v']
  | c =>
    if isPrint c then [c]
    else
      let n := b.toNat
      '\\' :: [n / 64, n / 8 % 8, n % 8].map fun d => Char.ofNat (48 + d)

/-- A line so that every character can be seen; a long one is broken. -/
def listing (width : Nat) (text : ByteArray) : Raw :=
  let (out, _) := text.toList.foldl (fun (out, used) b =>
    let shown := listed b
    if width ≠ 0 && width - 1 < used + shown.length then
      (shown.reverse ++ '\n' :: '\\' :: out, shown.length)
    else (shown.reverse ++ out, used + shown.length)) (([] : Raw), 0)
  out.reverse ++ ['$', '\n']

/-- The first line of a text. -/
def firstLine (s : Setting) (line : Space) : Space :=
  match indexOf line.text s.delimiter line.text.size 0 with
  | some i => { text := line.text.extract 0 i }
  | none => line

/-- Does what a command says; `i` is its place. -/
def perform (p : Process) (s : Setting) (script : Script) (i : Nat) :
    Instruction → Run Outcome
  | .block _ | .nothing => return .go (i + 1)
  | .number => do
    write s (Raw.ofNat (← get).number ++ ['\n']).toBytes
    return .go (i + 1)
  | .append text => do
    modify fun e => { e with waiting := .text text.toBytes :: e.waiting }
    return .go (i + 1)
  | .insert text => do
    write s text.toBytes
    return .go (i + 1)
  | .change text => do
    match (← get).ranges[i]? with
    | some (.active _) => return .drop
    | _ =>
      write s text.toBytes
      return .drop
  | .branch label => return .go (script.target label)
  | .branchIf label => do
    let e ← get
    set { e with replaced := false }
    return .go (if e.replaced then script.target label else i + 1)
  | .branchUnless label => do
    let e ← get
    set { e with replaced := false }
    return .go (if e.replaced then i + 1 else script.target label)
  | .delete => return .drop
  | .deleteFirst => do
    let e ← get
    match indexOf e.line.text s.delimiter e.line.text.size 0 with
    | none => return .drop
    | some n =>
      set { e with line := { e.line with text := e.line.text.extract (n + 1) e.line.text.size } }
      return .again
  | .get => do
    modify fun e => { e with line := e.kept }
    return .go (i + 1)
  | .getMore => do
    modify fun e =>
      { e with line := { e.kept with text := e.line.text.push s.delimiter ++ e.kept.text } }
    return .go (i + 1)
  | .hold => do
    modify fun e => { e with kept := e.line }
    return .go (i + 1)
  | .holdMore => do
    modify fun e =>
      { e with kept := { e.line with text := e.kept.text.push s.delimiter ++ e.line.text } }
    return .go (i + 1)
  | .exchange => do
    modify fun e => { e with line := e.kept, kept := e.line }
    return .go (i + 1)
  | .list width => do
    write s (listing (width.getD s.width) (← get).line.text).toBytes
    return .go (i + 1)
  | .next => do
    if ← isLast p then return .finish
    if !s.quiet then writeLine s (← get).line
    if ← readLine p s false then return .go (i + 1) else return .quit 0 false
  | .nextMore => do
    if ← isLast p then return .finish
    if ← readLine p s true then return .go (i + 1) else return .finish
  | .print => do
    writeLine s (← get).line
    return .go (i + 1)
  | .printFirst => do
    writeLine s (firstLine s (← get).line)
    return .go (i + 1)
  | .quit status => return .quit status true
  | .quitSilently status => return .quit status false
  | .readFile name => do
    modify fun e => { e with waiting := .file name :: e.waiting }
    return .go (i + 1)
  | .substitute work => do
    substitute p s work
    return .go (i + 1)
  | .writeLine sink => do
    writeTo p s sink (← get).line
    return .go (i + 1)
  | .transliterate table => do
    modify fun e =>
      let text := e.line.text.foldl (fun out b => out.push (table.get! b.toNat)) ByteArray.empty
      { e with line := { e.line with text } }
    return .go (i + 1)

/-- Works on the line from a command on, until it is done with. -/
def work (p : Process) (s : Setting) (script : Script) : Nat → Nat → Run Outcome
  | 0, _ => return .quit 0 false
  | fuel + 1, i => do
    match script.steps[i]? with
    | none => return .finish
    | some step =>
      let applies ← applies p i step.condition
      if applies != step.condition.negated then
        match ← perform p s script i step.instruction with
        | .go next => work p s script fuel next
        | .again =>
          dumpWaiting p s
          work p s script fuel 0
        | outcome => return outcome
      else
        match step.instruction with
        | .block stop => work p s script fuel stop
        | _ => work p s script fuel (i + 1)

/-- Works on all lines; the status at the end. -/
def cycles (p : Process) (s : Setting) (script : Script) : Nat → Run Nat
  | 0 => return 0
  | fuel + 1 => do
    if !(← readLine p s false) then return (← get).status
    match ← work p s script patience 0 with
    | .quit status writes =>
      if writes then
        if !s.quiet then writeLine s (← get).line
        dumpWaiting p s
        write s ByteArray.empty
      let earlier := (← get).status
      return if status = 0 then earlier else status
    | .drop =>
      dumpWaiting p s
      cycles p s script fuel
    | _ =>
      if !s.quiet then writeLine s (← get).line
      dumpWaiting p s
      cycles p s script fuel

/-- Opens the files that lines are written to. -/
def openSinks (p : Process) : List Raw → Run Unit
  | [] => return
  | name :: names => do
    match (← act get).openFile p.cwd p.descriptors name .writing with
    | .ok (channel, m) =>
      act (set m)
      modify fun e => { e with sinks := (name, channel) :: e.sinks }
      openSinks p names
    | .error err =>
      throw ⟨"couldn't open file ".toList ++ name ++ ": ".toList ++ err.words.toList, 4⟩

/-- Runs a script over files. -/
def run (p : Process) (s : Setting) (script : Script) (files : List Raw) :
    Action ExitStatus := do
  let ranges := script.steps.map fun step =>
    match step.condition.start with
    | some (.line 0) => Range.active none
    | _ => Range.idle
  let body : Run Nat := do
    openSinks p script.sinks
    cycles p s script patience
  let (result, e) ← (body.run).run { ranges, files : Editor }
  p.out e.out
  match result with
  | .ok status => return .code status
  | .error abort =>
    p.complain abort.words
    return .code abort.status

end Editor

end LexicalModel.Command.Edit
