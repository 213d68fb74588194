import LexicalModel.Command.Printf.Directive
import LexicalModel.Command.Quoting

/-!
# Formats

A format is text with directives and escapes in it; each directive takes an argument, and the format
is used again as long as arguments are left.  There are two manners of reading one, that of the
program and that of the shell, which differ in escapes, in the numbers they know and in their words.

* `Manner` : how a format is read
* `Manner.print` : what a format makes of arguments
-/

namespace LexicalModel.Command.Printf

/-- A width or a precision. -/
inductive Amount where
  /-- None is given. -/
  | absent
  /-- It stands in the format. -/
  | given (n : Nat)
  /-- It is an argument. -/
  | argument

/-- A directive as it stands in a format. -/
structure Spec where
  /-- The flags. -/
  flags : Raw
  /-- The width. -/
  width : Amount
  /-- The precision. -/
  precision : Amount
  /-- The notation; nothing where the format ends before it. -/
  letter : Option Char
  /-- The whole of it. -/
  text : Raw
  /-- The format after it. -/
  rest : Raw

/-- Reads an amount. -/
def amount (cs : Raw) : Amount × Raw :=
  match cs with
  | '*' :: rest => (.argument, rest)
  | _ =>
    let ds := cs.takeWhile isDigit
    (if ds = [] then .absent else .given (numeral 10 ds), cs.drop ds.length)

/-- Reads a directive after its percent sign.  `flags` are the flags there are, `skipped` the
letters that mean nothing before the notation. -/
def readSpec (flags skipped : Raw) (cs : Raw) : Spec :=
  let given := cs.takeWhile flags.contains
  let (width, afterWidth) := amount (cs.drop given.length)
  let (precision, afterPrecision) : Amount × Raw := match afterWidth with
    | '.' :: rest =>
      match amount rest with
      | (.absent, rest) => (.given 0, rest)
      | found => found
    | _ => (.absent, afterWidth)
  let atLetter := afterPrecision.dropWhile skipped.contains
  let rest := atLetter.drop 1
  { flags := given, width, precision, letter := atLetter.head?
    text := '%' :: cs.take (cs.length - rest.length), rest }

/-- What is written where. -/
inductive Event where
  /-- To the output. -/
  | output (text : Raw)
  /-- To those who watch for mistakes. -/
  | mistake (text : Raw)

/-- Why the work ends before the arguments do. -/
inductive Halt where
  /-- It was asked for. -/
  | wanted
  /-- A mistake that cannot be passed over. -/
  | refused (words : Raw)

/-- The state of the work. -/
structure Progress where
  /-- What was written, the newest first. -/
  events : List Event := []
  /-- The arguments that are left. -/
  args : List Raw
  /-- There was a mistake. -/
  failed : Bool := false

/-- A part of the work. -/
abbrev Work := ExceptT Halt (StateM Progress)

/-- Writes. -/
def write (r : Raw) : Work Unit := modify fun p => { p with events := .output r :: p.events }

/-- Notes a mistake. -/
def note (r : Raw) (counts : Bool) : Work Unit :=
  modify fun p => { p with events := .mistake r :: p.events, failed := p.failed || counts }

/-- Takes the next argument. -/
def next? : Work (Option Raw) :=
  modifyGet fun p => (p.args.head?, { p with args := p.args.tail })

/-- No width and no precision reaches this number. -/
def largestAmount : Nat := Nat.pow 2 31 - 1

/-- How a format is read. -/
structure Manner where
  /-- The flags of directives. -/
  flags : Raw
  /-- The letters that mean nothing before a notation. -/
  skipped : Raw
  /-- The precision of floating point numbers. -/
  precision : Precision
  /-- A `%b` or `%q` has to stand without width and precision. -/
  bareTexts : Bool
  /-- Whether a directive makes sense. -/
  allows : Spec → Bool
  /-- The words for a directive that makes none. -/
  refusal : Spec → Raw
  /-- The words for an argument that is no number, or, if it starts with one, not only that. -/
  doubt : Raw → (started : Bool) → Raw
  /-- The words for a number out of range. -/
  outOfRange : Raw → Raw
  /-- What an argument comes to as a width or, if so, a precision. -/
  amount : (precise : Bool) → Raw → Int → Except Halt Int
  /-- What becomes of a directive that asks for more bytes than a line of output can have. -/
  unprintable : Work Unit
  /-- The words for what follows a character that stands for its number. -/
  leftOver : Raw → Option Raw
  /-- A quote at the end of an argument stands for the number zero. -/
  lastQuoteCounts : Bool
  /-- What an escape after its backslash stands for in a format, and the rest. -/
  escape : Raw → Except Halt (Raw × Raw)
  /-- The same in an argument. -/
  argumentEscape : Raw → Except Halt (Raw × Raw)

namespace Manner

/-- The number of a character that an argument names by a quote in front of it. -/
def quotedChar? (m : Manner) (arg : Raw) : Option (Nat × Raw) :=
  match arg with
  | c :: rest =>
    if c = '"' || c = '\x27' then
      match rest with
      | d :: more => some (d.toNat, more)
      | [] => if m.lastQuoteCounts then some (0, []) else none
    else none
  | [] => none

/-- Notes what is wrong about a number. -/
def check (m : Manner) (arg rest : Raw) (missing excess : Bool) : Work Unit := do
  if excess && (rest = [] || m.bareTexts) then note (m.outOfRange arg) true
  else if rest ≠ [] then note (m.doubt arg (!missing)) true

/-- A whole number from an argument; zero where there is none. -/
def integerOf (m : Manner) (signed : Bool) (arg : Option Raw) : Work Int := do
  match arg with
  | none => return 0
  | some arg =>
    match m.quotedChar? arg with
    | some (n, more) =>
      match m.leftOver more with
      | some words => note words false
      | none => pure ()
      return n
    | none =>
      let r := readInteger signed arg
      m.check arg r.rest r.missing r.excess
      return r.value

/-- A width or, if so, a precision from an argument. -/
def amountOf (m : Manner) (precise : Bool) : Work Int := do
  let arg ← next?
  let n ← m.integerOf true arg
  (ExceptT.mk (pure (m.amount precise (arg.getD []) n)) : Work Int)

/-- A floating point number from an argument. -/
def floatingOf (m : Manner) (arg : Option Raw) : Work Floating := do
  match arg with
  | none => return ⟨false, .finite 0 0⟩
  | some arg =>
    match m.quotedChar? arg with
    | some (n, more) =>
      match m.leftOver more with
      | some words => note words false
      | none => pure ()
      return ⟨false, .finite n 0⟩
    | none =>
      match Floating.read? m.precision arg with
      | some (x, excess, rest) =>
        m.check arg rest false excess
        return x
      | none =>
        m.check arg arg true false
        return ⟨false, .finite 0 0⟩

/-- Writes an argument with its escapes carried out. -/
def unescape (m : Manner) : Nat → Raw → Except Halt Raw × Raw
  | 0, _ => (.ok [], [])
  | _ + 1, [] => (.ok [], [])
  | fuel + 1, c :: rest =>
    if c = '\\' then
      match m.argumentEscape rest with
      | .error h => (.error h, [])
      | .ok (text, rest) =>
        let (r, done) := m.unescape fuel rest
        (r, text ++ done)
    else
      let (r, done) := m.unescape fuel rest
      (r, c :: done)

/-- Carries out a directive. -/
def direct (m : Manner) (s : Spec) : Work Unit := do
  if m.bareTexts && s.text = "%b".toList then
    match ← next? with
    | none => return
    | some arg =>
      let (r, done) := m.unescape (arg.length + 1) arg
      write done
      let _ ← (ExceptT.mk (pure r) : Work Raw)
  else if m.bareTexts && s.text = "%q".toList then
    match ← next? with
    | none => return
    | some arg => write (shellWord arg)
  else
    let d : Directive := s.flags.foldl Directive.withFlag { letter := s.letter.getD ' ' }
    let d ← match s.width with
      | .absent => pure d
      | .given n => pure { d with width := n }
      | .argument => do
        pure (d.withWidth (← m.amountOf false))
    let d ← match s.precision with
      | .absent => pure d
      | .given n => pure { d with precision := some n }
      | .argument => do
        let n ← m.amountOf true
        pure (if n < 0 then d else { d with precision := some n.toNat })
    if !m.allows s then throw (.refused (m.refusal s))
    let arg ← next?
    if largestAmount ≤ d.width || d.precision.any (largestAmount ≤ ·) then m.unprintable
    else match d.letter with
    | 's' => write (d.text (arg.getD []))
    | 'c' => write (d.pad [(arg.getD []).headD '\x00'])
    | 'b' =>
      let arg := arg.getD []
      let (r, done) := m.unescape (arg.length + 1) arg
      write (d.text done)
      let _ ← (ExceptT.mk (pure r) : Work Raw)
    | 'd' | 'i' => write (d.integer (← m.integerOf true arg))
    | 'o' | 'u' | 'x' | 'X' => write (d.integer (← m.integerOf false arg))
    | _ => write (d.floating (← m.floatingOf arg))

/-- Goes through a format once. -/
def pass (m : Manner) : Nat → Raw → Work Unit
  | 0, _ => return
  | _ + 1, [] => return
  | fuel + 1, '%' :: '%' :: rest => do
    write ['%']
    m.pass fuel rest
  | fuel + 1, '%' :: rest => do
    let s :=
      if m.bareTexts && (rest.head? = some 'b' || rest.head? = some 'q') then
        readSpec [] [] rest
      else readSpec m.flags m.skipped rest
    m.direct s
    m.pass fuel s.rest
  | fuel + 1, '\\' :: rest => do
    let (text, rest) ← (ExceptT.mk (pure (m.escape rest)) : Work (Raw × Raw))
    write text
    m.pass fuel rest
  | fuel + 1, c :: rest => do
    write [c]
    m.pass fuel rest

/-- Goes through a format as long as it takes arguments and there are some. -/
def passes (m : Manner) (format : Raw) : Nat → Work Unit
  | 0 => return
  | fuel + 1 => do
    let before := (← get).args.length
    m.pass (format.length + 1) format
    let after := (← get).args.length
    if after ≠ 0 && after < before then m.passes format fuel

/-- What a format makes of arguments: what is written, in order, the arguments that were left, why
the work ended early, and whether there were mistakes. -/
def print (m : Manner) (format : Raw) (args : List Raw) : Except Halt Unit × Progress :=
  let (r, p) := (m.passes format (args.length + 1)).run { args }
  (r, { p with events := p.events.reverse })

end Manner

end LexicalModel.Command.Printf
