import LexicalModel.Command.Machine
import LexicalModel.Command.Options
import LexicalModel.Command.Quoting

/-!
# The command `cat`

Writes files one after the other, with line numbers or with visible forms of what cannot be seen
where that is asked for.
-/

namespace LexicalModel.Command.Concatenate

/-- How lines are written. -/
structure Style where
  /-- Every line has a number. -/
  numbers : Bool := false
  /-- Every line that is not blank has a number. -/
  numbersFilled : Bool := false
  /-- Of blank lines in a row only one is written. -/
  squeezes : Bool := false
  /-- The end of a line is marked. -/
  showsEnds : Bool := false
  /-- Tabs are shown. -/
  showsTabs : Bool := false
  /-- Other characters that cannot be seen are shown. -/
  showsControls : Bool := false

/-- The options. -/
def table : OptionTable where
  short := "AbeEnstTuv".toList.map (·, .nothing)
  long := [("number-nonblank", .nothing, 'b'), ("number", .nothing, 'n'),
    ("squeeze-blank", .nothing, 's'), ("show-nonprinting", .nothing, 'v'),
    ("show-ends", .nothing, 'E'), ("show-tabs", .nothing, 'T'), ("show-all", .nothing, 'A'),
    ("help", .nothing, '\x01'), ("version", .nothing, '\x02')]

/-- Adds an option to a style. -/
def Style.add (s : Style) : Char → Style
  | 'A' => { s with showsControls := true, showsEnds := true, showsTabs := true }
  | 'b' => { s with numbers := true, numbersFilled := true }
  | 'e' => { s with showsEnds := true, showsControls := true }
  | 'E' => { s with showsEnds := true }
  | 'n' => { s with numbers := true }
  | 's' => { s with squeezes := true }
  | 't' => { s with showsTabs := true, showsControls := true }
  | 'T' => { s with showsTabs := true }
  | 'v' => { s with showsControls := true }
  | _ => s

/-- Whether a style changes anything. -/
def Style.isPlain (s : Style) : Bool :=
  !(s.numbers || s.squeezes || s.showsEnds || s.showsTabs || s.showsControls)

/-- Where the writing stands: the lines numbered so far, whether a line starts, and how many blank
lines came last. -/
structure Progress where
  /-- The number of the last line. -/
  line : Nat := 0
  /-- A line starts. -/
  fresh : Bool := true
  /-- Blank lines in a row. -/
  blanks : Nat := 0
  /-- A carriage return is held back. -/
  held : Bool := false
  /-- What was written. -/
  out : ByteArray := ByteArray.empty

/-- Writes raw text. -/
def Progress.put (p : Progress) (r : Raw) : Progress :=
  { p with out := r.foldl (fun out c => out.push (byteOf c)) p.out }

/-- The visible form of a byte. -/
def visible (s : Style) (b : UInt8) : Raw :=
  if b = 9 then if s.showsTabs then ['^', 'I'] else ['\t']
  else if !s.showsControls then [charOf b]
  else
    let low (n : Nat) : Raw :=
      if n < 32 then ['^', Char.ofNat (n + 64)] else if n = 127 then ['^', '?'] else [Char.ofNat n]
    if b < 128 then low b.toNat else 'M' :: '-' :: low (b.toNat - 128)

/-- The number in front of a line. -/
def lineNumber (n : Nat) : Raw :=
  let ds := Raw.ofNat n
  List.replicate (6 - ds.length) ' ' ++ ds ++ ['\t']

/-- Writes the number of the next line. -/
def Progress.numbered (p : Progress) : Progress :=
  { p.put (lineNumber (p.line + 1)) with line := p.line + 1 }

/-- Writes a carriage return that was held back. -/
def Progress.release (p : Progress) (visibly : Bool) : Progress :=
  if p.held then { p.put (if visibly then ['^', 'M'] else ['\r']) with held := false } else p

/-- Writes one byte. -/
def Progress.step (s : Style) (p : Progress) (b : UInt8) : Progress :=
  if b = 10 then
    let p := p.release true
    if p.fresh && s.squeezes && 1 ≤ p.blanks then p
    else
      let p := if p.fresh && s.numbers && !s.numbersFilled then p.numbered else p
      let p := if s.showsEnds then p.put ['$'] else p
      { p.put ['\n'] with fresh := true, blanks := if p.fresh then p.blanks + 1 else 0 }
  else
    let p := p.release false
    let p := if p.fresh && s.numbers then p.numbered else p
    let p := { p with fresh := false, blanks := 0 }
    if b = 13 && s.showsEnds && !s.showsControls then { p with held := true }
    else p.put (visible s b)

/-- Whether an input is the file that is written, so that it would never end. -/
def isOwnOutput (m : Machine) (p : Process) (input : Nat) : Bool :=
  match m.channels[input]?, (p.descriptors.lookup 1).bind (m.channels[·]?) with
  | some (.file a offset _), some (.file b written access) =>
    a = b && offset < (if access.appends then (m.contents b).size else written)
  | _, _ => false

/-- Writes one file; whether that succeeded. -/
def writeOne (s : Style) (p : Process) (name : Raw) (progress : Progress) :
    Action (Progress × Bool) := do
  let input : Except OsError Nat ←
    if name = ['-'] then
      pure (match p.descriptors.lookup 0 with
        | some i => .ok i
        | none => .error .badDescriptor)
    else
      match (← get).openFile p.cwd p.descriptors name .reading with
      | .ok (i, m) =>
        set m
        pure (.ok i)
      | .error e => pure (.error e)
  match input with
  | .error e =>
    p.complain (fileWord name ++ ": ".toList ++ e.words.toList)
    return (progress, false)
  | .ok i =>
    if isOwnOutput (← get) p i then
      p.complain (fileWord name ++ ": input file is output file".toList)
      return (progress, false)
    else
      match ← modifyGet (·.take i Machine.everything) with
      | .error e =>
        p.complain (fileWord name ++ ": ".toList ++ e.words.toList)
        return (progress, false)
      | .ok bytes =>
        if s.isPlain then
          p.out bytes
          return (progress, true)
        else
          let after := bytes.foldl (Progress.step s) progress
          p.out after.out
          return ({ after with out := ByteArray.empty }, true)

/-- Writes files one after the other. -/
def writeAll (s : Style) (p : Process) : List Raw → Progress → Bool → Action Bool
  | [], progress, fine => do
    p.out (progress.release false).out
    return fine
  | name :: names, progress, fine => do
    let (progress, ok) ← writeOne s p name progress
    writeAll s p names progress (fine && ok)

/-- The command. -/
def program : Program := fun p => do
  let given := table.read p.args
  match given.error with
  | some e =>
    p.complain e.words
    p.err ("Try '".toList ++ p.name ++ " --help' for more information.\n".toList)
    return .code 1
  | none =>
    let style := given.options.foldl (fun s o => s.add o.letter) ({} : Style)
    if (p.descriptors.lookup 1).isNone then
      p.complain "standard output: Bad file descriptor".toList
      return .code 1
    let names := if given.operands = [] then [['-']] else given.operands
    let fine ← writeAll style p names {} true
    return .code (if fine then 0 else 1)

end LexicalModel.Command.Concatenate
