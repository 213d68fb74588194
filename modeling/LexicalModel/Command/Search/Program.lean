import LexicalModel.Command.Machine
import LexicalModel.Command.Options
import LexicalModel.Command.Search.Finder

/-!
# The command `grep`

Writes the lines of files that match patterns, or what is asked for about them: the matches alone,
their number, the names of the files.

* `Request` : what the options ask for
* `Report` : what was written so far
* `program` : the command
-/

namespace LexicalModel.Command.Search

/-- What the options ask for. -/
structure Request where
  /-- The notation of the patterns. -/
  kind : Option Kind := none
  /-- The patterns, if options give some. -/
  patterns : Option (List Raw) := none
  /-- Small and capital letters are the same. -/
  caseless : Bool := false
  /-- Lines that do not match. -/
  inverted : Bool := false
  /-- Whole words. -/
  words : Bool := false
  /-- Whole lines. -/
  lines : Bool := false
  /-- The number of lines. -/
  counts : Bool := false
  /-- The names of files with lines. -/
  namesWith : Bool := false
  /-- The names of files without. -/
  namesWithout : Bool := false
  /-- Nothing. -/
  quiet : Bool := false
  /-- No complaints about files. -/
  silent : Bool := false
  /-- Only the matches. -/
  onlyMatches : Bool := false
  /-- With the numbers of lines. -/
  numbers : Bool := false
  /-- With offsets. -/
  offsets : Bool := false
  /-- With the names of files, or without. -/
  fileNames : Option Bool := none
  /-- At most so many lines of a file. -/
  most : Option Nat := none
  /-- So many lines before. -/
  before : Option Nat := none
  /-- So many lines after. -/
  after : Option Nat := none
  /-- So many lines before and after, if not said otherwise. -/
  around : Option Nat := none
  /-- Lines end with a zero byte. -/
  zeroEnds : Bool := false
  /-- Files that hold zero bytes are taken for text. -/
  isAllText : Bool := false

/-- The options. -/
def table : OptionTable where
  short := "0123456789EFGHLPabchilnoqsvwxyz".toList.map (·, .nothing) ++
    "ABCefm".toList.map (·, .value)
  long := [("basic-regexp", .nothing, 'G'), ("extended-regexp", .nothing, 'E'),
    ("fixed-strings", .nothing, 'F'), ("perl-regexp", .nothing, 'P'),
    ("after-context", .value, 'A'), ("before-context", .value, 'B'),
    ("byte-offset", .nothing, 'b'), ("context", .value, 'C'), ("count", .nothing, 'c'),
    ("file", .value, 'f'), ("files-with-matches", .nothing, 'l'),
    ("files-without-match", .nothing, 'L'), ("ignore-case", .nothing, 'i'),
    ("line-number", .nothing, 'n'), ("line-regexp", .nothing, 'x'), ("max-count", .value, 'm'),
    ("no-filename", .nothing, 'h'), ("no-messages", .nothing, 's'), ("null-data", .nothing, 'z'),
    ("only-matching", .nothing, 'o'), ("quiet", .nothing, 'q'), ("regexp", .value, 'e'),
    ("invert-match", .nothing, 'v'), ("silent", .nothing, 'q'), ("text", .nothing, 'a'),
    ("with-filename", .nothing, 'H'), ("word-regexp", .nothing, 'w')]

/-- Texts between line feeds. -/
def splitLines (r : Raw) : List Raw :=
  let (lines, last) := r.foldr (fun c (lines, current) =>
    if c = '\n' then (current :: lines, []) else (lines, c :: current)) (([] : List Raw), [])
  last :: lines

/-- A count of lines. -/
def lineCount (value : Raw) : Except Raw Nat :=
  if value ≠ [] && value.all isDigit then .ok (numeral 10 value)
  else .error (value ++ ": invalid context length argument".toList)

/-- Chooses a notation. -/
def Request.choose (r : Request) (k : Kind) : Except Raw Request :=
  match r.kind with
  | none => .ok { r with kind := some k }
  | some old =>
    if old = k || old = .basic || k = .basic then .ok { r with kind := some k }
    else .error "conflicting matchers specified".toList

/-- Adds patterns. -/
def Request.withPatterns (r : Request) (more : List Raw) : Request :=
  { r with patterns := some (r.patterns.getD [] ++ more) }

/-- Adds an option; `file` reads the file it names. -/
def Request.add (r : Request) (file : Raw → Except OsError ByteArray) (o : GivenOption) :
    Except Raw Request := do
  let value := o.value.getD []
  match o.letter with
  | 'G' => r.choose .basic
  | 'E' => r.choose .extended
  | 'F' => r.choose .fixed
  | 'P' => r.choose .lavish
  | 'A' => return { r with after := some (← lineCount value) }
  | 'B' => return { r with before := some (← lineCount value) }
  | 'C' => return { r with around := some (← lineCount value) }
  | 'H' => return { r with fileNames := some true }
  | 'h' => return { r with fileNames := some false }
  | 'a' => return { r with isAllText := true }
  | 'L' => return { r with namesWithout := true, namesWith := false }
  | 'l' => return { r with namesWith := true, namesWithout := false }
  | 'z' => return { r with zeroEnds := true }
  | 'b' => return { r with offsets := true }
  | 'c' => return { r with counts := true }
  | 'e' => return r.withPatterns (splitLines value)
  | 'f' =>
    match file value with
    | .error e => throw (value ++ ": ".toList ++ e.words.toList)
    | .ok bytes =>
      let text := Raw.ofBytes bytes
      if text = [] then return r.withPatterns []
      else
        return r.withPatterns
          (splitLines (if text.getLast? = some '\n' then text.dropLast else text))
  | 'i' | 'y' => return { r with caseless := true }
  | 'm' =>
    let digits := if value.head? = some '-' then value.drop 1 else value
    if digits = [] || !digits.all isDigit then throw "invalid max count".toList
    else if value.head? = some '-' then return { r with most := none }
    else return { r with most := some (numeral 10 digits) }
  | 'n' => return { r with numbers := true }
  | 'o' => return { r with onlyMatches := true }
  | 'q' => return { r with quiet := true }
  | 's' => return { r with silent := true }
  | 'v' => return { r with inverted := true }
  | 'w' => return { r with words := true }
  | 'x' => return { r with lines := true }
  | _ => return r

/-- Digits that are given as options make up a number of lines around. -/
def digitsOf (options : List GivenOption) : Option Nat :=
  let digits := options.filter fun o => isDigit o.letter
  match digits.getLast? with
  | none => none
  | some last =>
    some (numeral 10 ((digits.filter (·.position = last.position)).map (·.letter)))

/-! ### Lines -/

/-- The lines of a text as places in it; the last one may lack its end. -/
def linesOf (bytes : ByteArray) (stop : UInt8) : Array Span :=
  let step (state : Array Span × Nat × Nat) (b : UInt8) : Array Span × Nat × Nat :=
    let (lines, start, i) := state
    if b = stop then (lines.push (start, i), i + 1, i + 1) else (lines, start, i + 1)
  let (lines, start, _) := bytes.foldl step (#[], 0, 0)
  if start < bytes.size then lines.push (start, bytes.size) else lines

/-- What was written so far. -/
structure Report where
  /-- The output. -/
  out : ByteArray := ByteArray.empty
  /-- Some line was written, in this file or an earlier one. -/
  used : Bool := false
  /-- The first line of the file that was not written after those that were. -/
  next : Option Nat := none
  /-- So many lines after a match are still to be written. -/
  pending : Nat := 0
  /-- How many lines were selected. -/
  selected : Nat := 0

/-- A file that is searched. -/
structure Page where
  /-- Its name. -/
  name : Raw
  /-- What it holds. -/
  bytes : ByteArray
  /-- Its lines. -/
  lines : Array Span

/-- Lines before a match that are written too. -/
def Request.linesBefore (r : Request) : Option Nat := r.before.or r.around

/-- Lines after a match that are written too. -/
def Request.linesAfter (r : Request) : Option Nat := r.after.or r.around

/-- The byte that ends a line. -/
def Request.ending (r : Request) : UInt8 := if r.zeroEnds then 0 else 10

/-- Only the number of lines counts. -/
def Request.isMute (r : Request) : Bool :=
  r.quiet || r.counts || r.namesWith || r.namesWithout

/-- What stands before a line or a match. -/
def Request.head (r : Request) (names : Bool) (page : Page) (line offset : Nat)
    (mark : Char) : Raw :=
  (if names then page.name ++ [mark] else []) ++
    (if r.numbers then Raw.ofNat (line + 1) ++ [mark] else []) ++
    (if r.offsets then Raw.ofNat offset ++ [mark] else [])

/-- Writes a line; `mark` tells matches from the lines around them. -/
def Report.line (rep : Report) (r : Request) (f : Finder) (names : Bool) (page : Page) (i : Nat)
    (mark : Char) : Report :=
  let (start, stop) := (page.lines[i]?).getD (0, 0)
  let text := page.bytes.extract start stop
  let isMatch := (mark = ':') != r.inverted
  let out :=
    if r.onlyMatches then
      if isMatch then
        let mark := if r.inverted then '-' else ':'
        (f.findAll text (text.size + 1) 0).foldl (fun (out : ByteArray) (a, b) =>
          (out ++ (r.head names page i (start + a) mark).toBytes ++
            text.extract a b).push r.ending) rep.out
      else rep.out
    else (rep.out ++ (r.head names page i start mark).toBytes ++ text).push r.ending
  { rep with out, next := some (i + 1) }

/-- Writes the lines from one to another, which stand around matches. -/
def Report.around (rep : Report) (r : Request) (f : Finder) (names : Bool) (page : Page)
    (start : Nat) (count : Nat) : Report :=
  (List.range count).foldl (fun rep k => rep.line r f names page (start + k) '-') rep

/-- Takes notice of a line. -/
def Report.step (rep : Report) (r : Request) (f : Finder) (names : Bool) (page : Page)
    (i : Nat) : Report :=
  let full := r.most.any (· ≤ rep.selected)
  -- where nothing is written, a line that cannot be selected need not be looked at
  if full && rep.pending = 0 then rep
  else
    let (start, stop) := (page.lines[i]?).getD (0, 0)
    let hit := f.matchesLine (page.bytes.extract start stop) != r.inverted
    if full then
      if hit then { rep with pending := 0 }
      else { rep.line r f names page i '-' with pending := rep.pending - 1 }
    else if hit then
      let rep :=
        if r.isMute then rep
        else
          let first := rep.next.getD 0
          let back := min ((r.linesBefore).getD 0) (i - first)
          let gap := rep.next ≠ some (i - back)
          let grouped := r.linesBefore.isSome || r.linesAfter.isSome
          let rep := if grouped && rep.used && gap then
              { rep with out := rep.out ++ "--\n".toUTF8 }
            else rep
          let rep := rep.around r f names page (i - back) back
          { rep.line r f names page i ':' with used := true, pending := r.linesAfter.getD 0 }
      { rep with selected := rep.selected + 1 }
    else if rep.pending ≠ 0 then
      { rep.line r f names page i '-' with pending := rep.pending - 1 }
    else rep

/-- Whether a file is taken for text. -/
def Request.isText (r : Request) (bytes : ByteArray) : Bool :=
  r.isAllText || r.zeroEnds || !bytes.toList.contains 0

/-! ### Files -/

/-- How much is read at once. -/
def chunk : Nat := 98304

/-- Whether the search can end with what was read. -/
def isEnough (r : Request) (f : Finder) (bytes : ByteArray) : Bool :=
  let most := if r.quiet then some 1 else r.most
  match most with
  | none => false
  | some most =>
    let count := (linesOf bytes r.ending).foldl (fun n (a, b) =>
      if n < most && f.matchesLine (bytes.extract a b) != r.inverted then n + 1 else n) 0
    most ≤ count

/-- Reads from a channel until there is enough. -/
def readEnough (r : Request) (f : Finder) (channel : Nat) :
    Nat → ByteArray → Action (Except OsError ByteArray)
  | 0, bytes => return .ok bytes
  | fuel + 1, bytes => do
    if isEnough r f bytes then return .ok bytes
    else
      match ← modifyGet (·.take channel chunk) with
      | .error e => return .error e
      | .ok more =>
        if more.size = 0 then return .ok bytes
        else readEnough r f channel fuel (bytes ++ more)

/-- What a file holds, or the standard input. -/
def readPage (r : Request) (f : Finder) (p : Process) (name : Raw) :
    Action (Except OsError ByteArray) := do
  let stops := r.quiet || r.most.isSome
  if name = ['-'] then
    match p.descriptors.lookup 0 with
    | none => return .error .badDescriptor
    | some i =>
      if stops then readEnough r f i Machine.everything ByteArray.empty else p.takeAll 0
  else p.readFile name

/-- What has come of the search so far. -/
structure Outcome where
  /-- Some line was selected. -/
  found : Bool := false
  /-- Something could not be read. -/
  failed : Bool := false
  /-- Some line was written. -/
  used : Bool := false

/-- Searches one file. -/
def searchFile (r : Request) (f : Finder) (p : Process) (names : Bool) (s : Outcome) (name : Raw) :
    Action Outcome := do
  let shown : Raw := if name = ['-'] then "(standard input)".toList else name
  match ← readPage r f p name with
  | .error e =>
    if !r.silent then p.complain (shown ++ ": ".toList ++ e.words.toList)
    return { s with failed := true }
  | .ok bytes =>
    let isText := r.isText bytes
    let page : Page := ⟨shown, bytes, linesOf bytes r.ending⟩
    let own := if isText then r else { r with quiet := true }
    let own := if own.quiet || own.namesWith || own.namesWithout then
      { own with most := some (min 1 (own.most.getD 1)) } else own
    let own := if r.counts && !isText then { own with most := r.most } else own
    let rep := (List.range page.lines.size).foldl (fun rep i => rep.step own f names page i)
      ({ used := s.used } : Report)
    p.out rep.out
    let hit := rep.selected ≠ 0
    if r.counts && !r.quiet && !r.namesWith && !r.namesWithout then
      let head : Raw := if names then shown ++ [':'] else []
      p.out (head ++ Raw.ofNat rep.selected ++ ['\n']).toBytes
    if !r.quiet && ((r.namesWith && hit) || (r.namesWithout && !hit)) then
      p.out (Raw.toBytes (shown ++ ['\n']))
    if !isText && hit && !r.isMute then
      p.complain (shown ++ ": binary file matches".toList)
    return { s with found := s.found || hit, used := rep.used }

/-- Searches files one after the other; a quiet search ends where something was found. -/
def searchAll (r : Request) (f : Finder) (p : Process) (names : Bool) :
    List Raw → Outcome → Action Outcome
  | [], s => return s
  | name :: rest, s => do
    let s ← searchFile r f p names s name
    if r.quiet && s.found then return s else searchAll r f p names rest s

/-- What the options ask for. -/
def requestOf (p : Process) : List GivenOption → Request → Action (Except Raw Request)
  | [], r => return .ok r
  | o :: os, r => do
    let file ← if o.letter = 'f' then
        if o.value = some ['-'] then p.takeAll 0 else p.readFile (o.value.getD [])
      else pure (.error .notFound)
    match r.add (fun _ => file) o with
    | .error e => return .error e
    | .ok r => requestOf p os r

/-- How the command is used. -/
def usage : Raw :=
  ("Usage: grep [OPTION]... PATTERNS [FILE]...\n" ++
    "Try 'grep --help' for more information.\n").toList

/-- The command. -/
def program : Program := fun p => do
  let given := table.read p.args
  match given.error with
  | some e =>
    p.complain e.words
    p.err usage
    return .code 2
  | none =>
    match ← requestOf p given.options { around := digitsOf given.options } with
    | .error words =>
      p.complain words
      return .code 2
    | .ok r =>
      match r.patterns, given.operands with
      | none, [] =>
        p.err usage
        return .code 2
      | patterns, operands =>
        let (patterns, files) : List Raw × List Raw := match patterns with
          | some patterns => (patterns, operands)
          | none => (splitLines (operands.headD []), operands.drop 1)
        match Finder.ofNotation (r.kind.getD .basic) r.caseless r.words r.lines patterns with
        | .error e =>
          p.complain e.words.toList
          return .code 2
        | .ok f =>
          if r.most = some 0 then return .code 1
          let files := if files = [] then [['-']] else files
          let names := r.fileNames.getD (1 < files.length)
          let s ← searchAll r f p names files {}
          if s.failed && !(r.quiet && s.found) then return .code 2
          else return .code (if s.found then 0 else 1)

end LexicalModel.Command.Search
