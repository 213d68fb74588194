import LexicalModel.Command.Edit.Script

/-!
# Reading scripts

A script comes in pieces, from arguments and from files.  The pieces are read as one text, with a
seam between them that ends what the end of a line ends; a text that is added to lines may go on
behind a seam.

* `Piece` : a piece of a script
* `Reader.read` : the script that pieces hold
-/

namespace LexicalModel.Command.Edit

/-- A piece of a script, with the name of the file it comes from. -/
structure Piece where
  /-- The file. -/
  file : Option Raw
  /-- The text. -/
  text : Raw

/-- Why a script is refused. -/
inductive Trouble where
  /-- Something is wrong where the rest begins. -/
  | here (rest : Raw) (words : Raw)
  /-- A block stays open; the rest begins after its start. -/
  | openBlock (rest : Raw)
  /-- There is no such label. -/
  | noLabel (label : Raw)

/-- How a script is read. -/
structure Reader where
  /-- Patterns are written in the extended notation. -/
  extended : Bool := false
  /-- Lines end with a zero byte. -/
  zeroEnds : Bool := false

namespace Reader

/-- Stands between pieces; no byte is this character. -/
def seam : Char := 'Ā'

/-- Something is wrong here. -/
def fail {α : Type} (rest : Raw) (words : String) : Except Trouble α :=
  .error (.here rest words.toList)

/-- Blanks along a line. -/
def isBlank (c : Char) : Bool := c = ' ' || c = '\t'

/-- Drops blanks. -/
def skipBlanks (cs : Raw) : Raw := cs.dropWhile isBlank

/-- The end of a line or of a piece. -/
def isStop (c : Char) : Bool := c = '\n' || c = seam

/-- A number, and the rest; zero where there are no digits. -/
def integer (cs : Raw) : Nat × Raw :=
  let ds := cs.takeWhile isDigit
  (numeral 10 ds, cs.drop ds.length)

/-! ### Texts between delimiters -/

/-- How far the reading of a bracket has come. -/
inductive Inside where
  /-- Among single characters. -/
  | plain
  /-- After an opening bracket. -/
  | opened
  /-- In the name of a class. -/
  | named (mark : Char)
  /-- After a mark that may close a name. -/
  | closing (mark : Char)

/-- The inside of a bracket up to its closing, and the rest from there; an error where it stays
open. -/
def bracketBody : Inside → Raw → Except Raw (Raw × Raw)
  | _, [] => .error []
  | state, c :: rest =>
    let go (next : Inside) : Except Raw (Raw × Raw) :=
      (bracketBody next rest).map fun (text, rest) => (c :: text, rest)
    let settled : Inside := match state with
      | .opened => .plain
      | .closing mark => .named mark
      | state => state
    if isStop c then .error (c :: rest)
    else if c = '.' || c = ':' || c = '=' then
      match state with
      | .opened => go (.named c)
      | .named mark => go (if c = mark then .closing mark else settled)
      | _ => go settled
    else if c = '[' then
      match state with
      | .plain => go .opened
      | state => go state
    else if c = ']' then
      match state with
      | .plain | .opened => .ok ([], c :: rest)
      | .closing _ => go .plain
      | _ => go settled
    else go settled

/-- The inside of a bracket with its negation and a closing bracket that stands first. -/
def bracketText (cs : Raw) : Except Raw (Raw × Raw) :=
  let (front, cs) : Raw × Raw := match cs with
    | '^' :: ']' :: rest => (['^', ']'], rest)
    | '^' :: rest => (['^'], rest)
    | ']' :: rest => ([']'], rest)
    | _ => ([], cs)
  (bracketBody .plain cs).map fun (text, rest) => (front ++ text, rest)

/-- The text up to a delimiter, and the rest after it; where there is none, the rest where the
search ended.  In a pattern `\n` is a line feed, and brackets hide the delimiter. -/
def delimited (delim : Char) (pattern : Bool) : Nat → Raw → Except Raw (Raw × Raw)
  | 0, cs => .error cs
  | _ + 1, [] => .error []
  | fuel + 1, c :: rest =>
    let go (text rest : Raw) : Except Raw (Raw × Raw) :=
      (delimited delim pattern fuel rest).map fun (more, rest) => (text ++ more, rest)
    if isStop c then .error (c :: rest)
    else if c = delim then .ok ([], rest)
    else if c = '\\' then
      match rest with
      | [] => .error []
      | e :: rest =>
        if e = seam then .error (e :: rest)
        else if e = 'n' && pattern then go ['\n'] rest
        else if e = '\n' || (e = delim && !(!pattern && e = '&')) then go [e] rest
        else go ['\\', e] rest
    else if c = '[' && pattern then
      match bracketText rest with
      | .error rest => .error rest
      | .ok (text, rest) => go ('[' :: text ++ rest.take 1) (rest.drop 1)
    else go [c] rest

/-! ### Escapes -/

/-- What a text is for. -/
inductive Purpose where
  /-- A pattern. -/
  | pattern
  /-- A replacement. -/
  | replacement
  /-- A text to be written. -/
  | plain
  deriving DecidableEq

/-- A letter after a backslash that stands for a control character. -/
def controlLetter? : Char → Option Char
  | 'a' => some '\x07'
  | 'f' => some '\x0c'
  | 'n' => some '\n'
  | 'r' => some '\r'
  | 't' => some '\t'
  | 'v' => some '\x0b'
  | _ => none

/-- The base, the number of digits and the test for them after a letter. -/
def numeric? : Char → Option (Nat × Nat × (Char → Bool))
  | 'd' => some (10, 3, isDigit)
  | 'o' => some (8, 3, isOctal)
  | 'x' => some (16, 2, isHex)
  | _ => none

/-- Carries out the escapes that stand for a character; nothing where one is ill-formed. -/
def convert (purpose : Purpose) : Nat → Raw → Option Raw
  | 0, cs => some cs
  | _ + 1, [] => some []
  | fuel + 1, '\\' :: c :: rest =>
    match controlLetter? c with
    | some d => (convert purpose fuel rest).map (d :: ·)
    | none =>
      match numeric? c with
      | some (base, length, test) =>
        let ds := (rest.take length).takeWhile test
        if ds = [] then (convert purpose fuel rest).map (c :: ·)
        else
          let d := charOf (UInt8.ofNat (numeral base ds))
          let kept := match purpose with
            | .pattern => false
            | .replacement => d = '&' || d = '\\'
            | .plain => d = '\\'
          (convert purpose fuel (rest.drop ds.length)).map fun more =>
            if kept then '\\' :: d :: more else d :: more
      | none =>
        if c = 'c' then
          match rest with
          | [] => some ['\\']
          | '\\' :: '\\' :: rest => (convert purpose fuel rest).map ('\x1c' :: ·)
          | '\\' :: _ => none
          | d :: rest =>
            (convert purpose fuel rest).map (charOf (byteOf (toCapital d) ^^^ 0x40) :: ·)
        else (convert purpose fuel rest).map fun more => '\\' :: c :: more
  | fuel + 1, c :: rest => (convert purpose fuel rest).map (c :: ·)

/-- Carries out the escapes of a text that was read up to here. -/
def converted (purpose : Purpose) (here text : Raw) : Except Trouble Raw :=
  match convert purpose (text.length + 1) text with
  | some r => .ok r
  | none => fail here "recursive escaping after \\c not allowed"

/-- Drops the backslashes in front of characters. -/
def unescaped : Raw → Raw
  | '\\' :: c :: rest => c :: unescaped rest
  | ['\\'] => []
  | c :: rest => c :: unescaped rest
  | [] => []

/-! ### Patterns and replacements -/

/-- The notation of patterns. -/
def dialect (r : Reader) (caseless multiline : Bool) : Dialect where
  extended := r.extended
  caseless
  multiline := multiline && !r.zeroEnds
  strictRepetition := r.extended
  strictInterval := !r.extended

/-- The pattern of a text, and how many groups it has. -/
def patternOf (r : Reader) (here text : Raw) (caseless multiline : Bool) :
    Except Trouble (Rx × Nat) := do
  if text = [] then
    if caseless || multiline then fail here "cannot specify modifiers on empty regexp"
    else return (none, 10)
  else
    let text ← converted .pattern here text
    match (r.dialect caseless multiline).parse text with
    | .error e => fail here e.words
    | .ok (p, groups) => return (some (p.compile true), groups)

/-- How far the reading of a replacement has come: the text since the last part, the casing of the
next part and that of those after it. -/
structure Casings where
  /-- Of the next part. -/
  now : Casing := {}
  /-- Of those after it. -/
  later : Casing := {}

/-- The parts of a replacement.  `text` is the text since the last part, backwards; a character that
was escaped ends a part too. -/
def parts : Raw → Casings → Raw → Replacement
  | text, k, [] => if text = [] then [] else [⟨text.reverse, none, k.now⟩]
  | text, k, ['\\'] => [⟨text.reverse ++ ['\\'], none, k.now⟩]
  | text, k, '\\' :: c :: rest =>
    let before := text.reverse
    let shift (all : Letters) : Replacement :=
      ⟨before, none, k.now⟩ :: parts [] ⟨{ all }, { all }⟩ rest
    if isDigit c then
      ⟨before, some (c.toNat - 48), k.now⟩ :: parts [] ⟨k.later, k.later⟩ rest
    else
      match c with
      | 'L' => shift .small
      | 'U' => shift .capital
      | 'E' => shift .same
      | 'l' => ⟨before, none, k.now⟩ :: parts [] ⟨{ k.later with first := .small }, k.later⟩ rest
      | 'u' => ⟨before, none, k.now⟩ :: parts [] ⟨{ k.later with first := .capital }, k.later⟩ rest
      | _ => ⟨before ++ [c], none, k.now⟩ :: parts [] ⟨k.later, k.later⟩ rest
  | text, k, '&' :: rest =>
    ⟨text.reverse, some 0, k.now⟩ :: parts [] ⟨k.later, k.later⟩ rest
  | text, k, c :: rest => parts (c :: text) k rest

/-- The largest group that a replacement refers to. -/
def largestGroup (parts : Replacement) : Nat :=
  parts.foldl (fun n p => max n (p.group.getD 0)) 0

/-! ### Ends of commands -/

/-- The rest after the end of a command; something else must not follow it. -/
def endOfCommand (cs : Raw) : Except Trouble Raw :=
  match skipBlanks cs with
  | [] => .ok []
  | c :: rest =>
    if c = '\x7d' || c = '#' then .ok (c :: rest)
    else if isStop c || c = ';' then .ok (c :: rest)
    else fail rest "extra characters after command"

/-- A label, and the rest. -/
def label (cs : Raw) : Raw × Raw :=
  let cs := skipBlanks cs
  let name := cs.takeWhile fun c => !isSpace c && c ≠ ';' && c ≠ '\x7d' && c ≠ seam
  (name, cs.drop name.length)

/-- The name of a file up to the end of the line, and the rest. -/
def fileName (cs : Raw) : Except Trouble (Raw × Raw) :=
  let cs := skipBlanks cs
  let name := cs.takeWhile fun c => !isStop c
  let rest := cs.drop name.length
  if name = [] then fail rest "missing filename in r/R/w/W commands" else .ok (name, rest)

/-- Where a file name leads. -/
def sinkOf (name : Raw) : Sink :=
  if name = "/dev/stdout".toList then .standard
  else if name = "/dev/stderr".toList then .mistakes
  else .file name

/-- A text of several lines up to a line that does not go on, with its escapes, and the rest. -/
def textLines : Raw → Raw × Raw
  | [] => ([], [])
  | ['\\'] => ([], [])
  | '\\' :: c :: rest =>
    let (text, rest) := textLines rest
    ((if isStop c then ['\n'] else ['\\', c]) ++ text, rest)
  | c :: rest =>
    if isStop c then ([], c :: rest)
    else
      let (text, rest) := textLines rest
      (c :: text, rest)

/-- The text of a command that writes one, and the rest. -/
def textOf (cs : Raw) : Except Trouble (Raw × Raw) := do
  let finish (cs : Raw) : Except Trouble (Raw × Raw) := do
    let (text, rest) := textLines cs
    let text ← converted .plain rest text
    return (unescaped text ++ ['\n'], rest)
  match skipBlanks cs with
  | [] => fail [] "expected \\ after \x60a', \x60c' or \x60i'"
  | ['\\'] => return ([], [])
  | '\\' :: c :: rest => if isStop c then finish rest else finish (c :: rest)
  | c :: rest =>
    if c = seam then fail (c :: rest) "expected \\ after \x60a', \x60c' or \x60i'"
    else finish (c :: rest)

/-! ### Addresses -/

/-- The modifiers after a pattern: small and capital letters are the same, lines count. -/
def modifiers : Raw → Bool × Bool → (Bool × Bool) × Raw
  | [], flags => (flags, [])
  | c :: rest, (caseless, multiline) =>
    if isBlank c then modifiers rest (caseless, multiline)
    else if c = 'I' then modifiers rest (true, multiline)
    else if c = 'M' then modifiers rest (caseless, true)
    else ((caseless, multiline), c :: rest)

/-- An address, and the rest; nothing where there is none. -/
def address (r : Reader) (cs : Raw) : Except Trouble (Option Stop × Raw) := do
  match cs with
  | [] => return (none, [])
  | c :: rest =>
    if c = '/' || c = '\\' then
      let (delim, rest) : Char × Raw :=
        if c = '/' then ('/', rest) else (rest.headD seam, rest.drop 1)
      match delimited delim true (rest.length + 1) rest with
      | .error rest => fail rest "unterminated address regex"
      | .ok (text, rest) =>
        let ((caseless, multiline), rest) := modifiers rest (false, false)
        let (rx, _) ← r.patternOf rest text caseless multiline
        return (some (.address (.pattern rx)), rest)
    else if isDigit c then
      let (first, rest) := integer cs
      match skipBlanks rest with
      | '~' :: rest =>
        let (step, rest) := integer (skipBlanks rest)
        return (some (.address (if step = 0 then .line first else .step first step)), rest)
      | _ => return (some (.address (.line first)), rest)
    else if c = '+' || c = '~' then
      let (n, rest) := integer (skipBlanks rest)
      return (some (if c = '+' then .after n else .multiple n), rest)
    else if c = '$' then return (some (.address .last), rest)
    else return (none, cs)

/-- The condition of a command, and the rest. -/
def condition (r : Reader) (cs : Raw) : Except Trouble (Condition × Raw) := do
  let bang (k : Condition) (cs : Raw) : Except Trouble (Condition × Raw) := do
    match skipBlanks cs with
    | '!' :: rest =>
      match skipBlanks rest with
      | '!' :: rest => fail rest "multiple \x60!'s"
      | rest => return ({ k with negated := true }, rest)
    | rest => return (k, rest)
  match ← r.address cs with
  | (none, rest) => bang {} rest
  | (some (.address a), rest) =>
    let (stop, rest) ← match skipBlanks rest with
      | ',' :: rest => do
        match ← r.address (skipBlanks rest) with
        | (none, rest) => fail (rest.drop 1) "unexpected \x60,'"
        | (some stop, rest) => pure (some stop, rest)
      | rest => pure (none, rest)
    match a, stop with
    | .line 0, some (.address (.pattern _)) => bang ⟨some a, stop, false⟩ rest
    | .line 0, _ => fail ((skipBlanks rest).drop 1) "invalid usage of line address 0"
    | _, _ => bang ⟨some a, stop, false⟩ rest
  | (some _, rest) => fail rest "invalid usage of +N or ~N as first address"

/-! ### Substitutions -/

/-- What was read of the options of a substitution. -/
structure Options where
  /-- The substitution so far. -/
  work : Substitution
  /-- Small and capital letters are the same. -/
  caseless : Bool := false
  /-- Lines count. -/
  multiline : Bool := false

/-- Reads the options of a substitution. -/
def options : Nat → Options → Raw → Except Trouble (Options × Raw)
  | 0, o, cs => .ok (o, cs)
  | _ + 1, o, [] => .ok (o, [])
  | fuel + 1, o, c :: rest => do
    if isBlank c then options fuel o rest
    else if c = 'i' || c = 'I' then options fuel { o with caseless := true } rest
    else if c = 'm' || c = 'M' then options fuel { o with multiline := true } rest
    else if c = 'p' then
      if o.work.prints then fail rest "multiple \x60p' options to \x60s' command"
      options fuel { o with work := { o.work with prints := true } } rest
    else if c = 'g' then
      if o.work.everywhere then fail rest "multiple \x60g' options to \x60s' command"
      options fuel { o with work := { o.work with everywhere := true } } rest
    else if c = 'w' then
      let (name, rest) ← fileName rest
      return ({ o with work := { o.work with sink := some (sinkOf name) } }, rest)
    else if isDigit c then
      if o.work.number.isSome then fail rest "multiple number options to \x60s' command"
      let (n, rest) := integer (c :: rest)
      if n = 0 then fail rest "number option to \x60s' command may not be zero"
      options fuel { o with work := { o.work with number := some n } } rest
    else if c = '\x7d' || c = '#' || c = seam then return (o, c :: rest)
    else if c = '\n' || c = ';' then return (o, rest)
    else fail rest "unknown option to \x60s'"

/-- Reads a substitution after its letter. -/
def substitution (r : Reader) (cs : Raw) : Except Trouble (Instruction × Raw) := do
  let delim := cs.headD seam
  let body := cs.drop 1
  let unterminated {α : Type} (rest : Raw) : Except Trouble α :=
    fail rest "unterminated \x60s' command"
  if isStop delim then unterminated cs
  match delimited delim true (body.length + 1) body with
  | .error rest => unterminated rest
  | .ok (pattern, rest) =>
    match delimited delim false (rest.length + 1) rest with
    | .error rest => unterminated rest
    | .ok (text, rest) =>
      let text ← converted .replacement rest text
      let replacement := parts [] {} text
      let start : Options := { work := { pattern := none, replacement } }
      let (o, rest) ← options (rest.length + 1) start rest
      let (rx, groups) ← r.patternOf rest pattern o.caseless o.multiline
      let largest := largestGroup replacement
      if groups < largest then
        fail rest s!"invalid reference \\{largest} on \x60s' command's RHS"
      return (.substitute { o.work with pattern := rx }, rest)

/-- Reads a transliteration after its letter. -/
def transliteration (cs : Raw) : Except Trouble (Instruction × Raw) := do
  let delim := cs.headD seam
  let body := cs.drop 1
  let unterminated {α : Type} (rest : Raw) : Except Trouble α :=
    fail rest "unterminated \x60y' command"
  if isStop delim then unterminated cs
  match delimited delim false (body.length + 1) body with
  | .error rest => unterminated rest
  | .ok (sources, rest) =>
    match delimited delim false (rest.length + 1) rest with
    | .error rest => unterminated rest
    | .ok (targets, rest) =>
      let sources := unescaped (← converted .plain rest sources)
      let targets := unescaped (← converted .plain rest targets)
      if sources.length ≠ targets.length then
        fail rest "strings for \x60y' command are different lengths"
      let table := (sources.zip targets).foldr
        (fun (a, b) (table : ByteArray) => table.set! a.toNat (byteOf b))
        (ByteArray.mk ((Array.range 256).map UInt8.ofNat))
      return (.transliterate table, ← endOfCommand rest)

/-! ### Scripts -/

/-- Reads a command with the letter `c`; `k` is its condition. -/
def command (r : Reader) (k : Condition) (c : Char) (rest : Raw) :
    Except Trouble (Instruction × Raw) := do
  let simple (command : Instruction) : Except Trouble (Instruction × Raw) :=
    return (command, ← endOfCommand rest)
  let jump (make : Raw → Instruction) : Except Trouble (Instruction × Raw) :=
    let (name, rest) := label rest
    return (make name, rest)
  let text (make : Raw → Instruction) : Except Trouble (Instruction × Raw) := do
    let (text, rest) ← textOf rest
    return (make text, rest)
  let file (make : Raw → Instruction) : Except Trouble (Instruction × Raw) := do
    let (name, rest) ← fileName rest
    return (make name, rest)
  let quit (make : Nat → Instruction) : Except Trouble (Instruction × Raw) := do
    if k.stop.isSome then fail rest "command only uses one address"
    let (status, rest) := integer (skipBlanks rest)
    return (make status, ← endOfCommand rest)
  match c with
  | '=' => simple .number
  | 'a' => text .append
  | 'i' => text .insert
  | 'c' => text .change
  | 'b' => jump .branch
  | 't' => jump .branchIf
  | 'T' => jump .branchUnless
  | 'd' => simple .delete
  | 'D' => simple .deleteFirst
  | 'g' => simple .get
  | 'G' => simple .getMore
  | 'h' => simple .hold
  | 'H' => simple .holdMore
  | 'x' => simple .exchange
  | 'l' =>
    let cs := skipBlanks rest
    let (n, after) := integer cs
    return (.list (if after.length < cs.length then some n else none), ← endOfCommand after)
  | 'n' => simple .next
  | 'N' => simple .nextMore
  | 'p' => simple .print
  | 'P' => simple .printFirst
  | 'q' => quit .quit
  | 'Q' => quit .quitSilently
  | 'r' => file .readFile
  | 's' => r.substitution rest
  | 'w' => file fun name => .writeLine (sinkOf name)
  | 'y' => transliteration rest
  | _ =>
    if c = seam then fail (c :: rest) "missing command"
    else .error (.here rest ("unknown command: \x60".toList ++ c :: ['\x27']))

/-- How far the reading of a script has come. -/
structure Progress where
  /-- The script so far. -/
  script : Script := {}
  /-- The blocks that are open: where they start, and the rest after that. -/
  blocks : List (Nat × Raw) := []

/-- Adds a command. -/
def Progress.push (p : Progress) (k : Condition) (c : Instruction) : Progress :=
  { p with script := { p.script with steps := p.script.steps.push ⟨k, c⟩ } }

/-- Reads commands. -/
def commands (r : Reader) : Nat → Progress → Raw → Except Trouble Progress
  | 0, p, _ => .ok p
  | fuel + 1, p, cs => do
    match cs.dropWhile fun c => isSpace c || c = ';' || c = seam with
    | [] => return p
    | cs =>
      let (k, cs) ← r.condition cs
      match cs with
      | [] => fail [] "missing command"
      | '#' :: rest =>
        if k.start.isSome then fail rest "comments don't accept any addresses"
        r.commands fuel p (rest.dropWhile fun c => !isStop c)
      | ':' :: rest =>
        if k.start.isSome then fail rest ": doesn't want any addresses"
        let (name, rest) := label rest
        if name = [] then fail rest "\":\" lacks a label"
        let script := { p.script with labels := p.script.labels ++ [(name, p.script.steps.size)] }
        r.commands fuel { p with script } rest
      | '\x7b' :: rest =>
        let p := { p with blocks := (p.script.steps.size, rest) :: p.blocks }
        r.commands fuel (p.push k (.block 0)) rest
      | '\x7d' :: rest =>
        match p.blocks with
        | [] => fail rest "unexpected \x60\x7d'"
        | (start, _) :: blocks =>
          if k.start.isSome then fail rest "\x60\x7d' doesn't want any addresses"
          let rest ← endOfCommand rest
          let stop := p.script.steps.size
          let close (s : Step) : Step := { s with instruction := .block stop }
          let script := { p.script with steps := p.script.steps.modify start close }
          r.commands fuel { script, blocks } rest
      | c :: rest =>
        let (command, rest) ← r.command k c rest
        r.commands fuel (p.push k command) rest

/-- The label of a jump. -/
def jumpLabel? : Instruction → Option Raw
  | .branch l | .branchIf l | .branchUnless l => if l = [] then none else some l
  | _ => none

/-- Pieces as one text. -/
def joined (pieces : List Piece) : Raw := Raw.join [seam] (pieces.map (·.text))

/-- Whether a script starts with the comment that keeps lines from being written. -/
def startsQuiet (cs : Raw) : Bool :=
  match cs with
  | '#' :: 'n' :: rest => rest.head?.all isStop
  | _ => false

/-- The script that pieces hold. -/
def read (r : Reader) (pieces : List Piece) : Except Trouble Script := do
  let cs := joined pieces
  let p ← r.commands (cs.length + 1) {} cs
  match p.blocks with
  | (_, rest) :: _ => .error (.openBlock rest)
  | [] =>
    let known (l : Raw) : Bool := (p.script.labels.lookup l).isSome
    let missing := (p.script.steps.toList.filterMap (jumpLabel? ·.instruction)).filter (!known ·)
    match missing.getLast? with
    | some l => .error (.noLabel l)
    | none => return { p.script with quiet := startsQuiet cs }

/-! ### Complaints -/

/-- Where a number of characters leads in pieces: the number of the piece, the piece, and the number
of characters in it. -/
def locate : List Piece → Nat → Nat → Option (Nat × Piece × Nat)
  | [], _, _ => none
  | [piece], index, n => some (index, piece, n)
  | piece :: pieces, index, n =>
    if n ≤ piece.text.length then some (index, piece, n)
    else locate pieces (index + 1) (n - piece.text.length - 1)

/-- The words about a place in pieces; `atStart` says that the place in a piece does not count. -/
def wordsAt (pieces : List Piece) (rest : Raw) (atStart : Bool) (words : Raw) : Raw :=
  let consumed := (joined pieces).length - rest.length
  match locate pieces 0 consumed with
  | none => words
  | some (index, piece, n) =>
    match piece.file with
    | some name =>
      let lines := ((piece.text.take n).filter (· = '\n')).length + 1
      "file ".toList ++ name ++ " line ".toList ++ Raw.ofNat lines ++ ": ".toList ++ words
    | none =>
      let earlier := ((pieces.take index).filter (·.file.isNone)).length
      "-e expression #".toList ++ Raw.ofNat (earlier + 1) ++ ", char ".toList ++
        Raw.ofNat (if atStart then 0 else n) ++ ": ".toList ++ words

end Reader

/-- The words about trouble with a script, and the status it leads to. -/
def Trouble.words (pieces : List Piece) : Trouble → Raw × Nat
  | here rest words => (Reader.wordsAt pieces rest false words, 1)
  | openBlock rest => (Reader.wordsAt pieces rest true "unmatched \x60\x7b'".toList, 1)
  | noLabel label => ("can't find label for jump to \x60".toList ++ label ++ ['\x27'], 4)

end LexicalModel.Command.Edit
