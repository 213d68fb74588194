import LexicalModel.Command.Machine
import LexicalModel.Command.Printf.Format

/-!
# The program `printf`

Writes its arguments as a format says.
-/

namespace LexicalModel.Command.Printf

/-- What a letter after a backslash stands for. -/
def letterMeaning? : Char → Option Char
  | '"' => some '"'
  | '\\' => some '\\'
  | 'a' => some '\x07'
  | 'b' => some '\x08'
  | 'e' => some '\x1b'
  | 'f' => some '\x0c'
  | 'n' => some '\n'
  | 'r' => some '\r'
  | 't' => some '\t'
  | 'v' => some '\x0b'
  | _ => none

/-- A byte from digits. -/
def byteFrom (base : Nat) (ds : Raw) : Raw := [charOf (UInt8.ofNat (numeral base ds))]

/-- A character by its number.  Only the first 128 can be written; others stay escapes. -/
def characterEscape (letter : Char) (rest : Raw) : Except Halt (Raw × Raw) :=
  let length := if letter = 'u' then 4 else 8
  let ds := (rest.take length).takeWhile isHex
  let n := numeral 16 ds
  if ds.length < length then .error (.refused "missing hexadecimal number in escape".toList)
  else if (n ≤ 0x9f && n ≠ 0x24 && n ≠ 0x40 && n ≠ 0x60) || (0xd800 ≤ n && n ≤ 0xdfff) then
    .error (.refused ("invalid universal character name \\".toList ++
      letter :: padDigits length (Raw.digits 16 n)))
  else
    let digits := (Raw.digits 16 n).map toCapital
    let text : Raw :=
      if n < 128 then [Char.ofNat n]
      else if n < 0x10000 then '\\' :: 'u' :: padDigits 4 digits
      else '\\' :: 'U' :: padDigits 8 digits
    .ok (text, rest.drop length)

/-- What an escape stands for.  In arguments an octal number may have a zero in front. -/
def escapeOf (inArgument : Bool) (cs : Raw) : Except Halt (Raw × Raw) :=
  match cs with
  | [] => .ok (['\\'], [])
  | c :: rest =>
    if c = 'x' then
      let ds := (rest.take 2).takeWhile isHex
      if ds = [] then .error (.refused "missing hexadecimal number in escape".toList)
      else .ok (byteFrom 16 ds, rest.drop ds.length)
    else if isOctal c then
      let cs := if inArgument && c = '0' then rest else cs
      let ds := (cs.take 3).takeWhile isOctal
      .ok (byteFrom 8 ds, cs.drop ds.length)
    else if c = 'c' then .error .wanted
    else
      match letterMeaning? c with
      | some d => .ok ([d], rest)
      | none =>
        if c = 'u' || c = 'U' then characterEscape c rest else .ok (['\\', c], rest)

/-- Whether a notation goes with the flags and the precision of a directive. -/
def goesWith (s : Spec) (letter : Char) : Bool :=
  "cdeEfFgGiosuxX".toList.contains letter &&
    !(s.flags.any fun flag =>
      if flag = 'I' || flag = '\x27' then "ceEosxX".toList.contains letter
      else if flag = '#' then "cdisu".toList.contains letter
      else if flag = '0' then letter = 'c' || letter = 's'
      else false) &&
    !(letter = 'c' && match s.precision with
      | .absent => false
      | _ => true)

/-- The manner of the program. -/
def programManner : Manner where
  flags := "-+ #0'I".toList
  skipped := "lLhjtz".toList
  precision := .wide
  bareTexts := true
  allows s := s.letter.any (goesWith s)
  refusal s := s.text ++ ": invalid conversion specification".toList
  doubt arg started :=
    quoted arg ++
      (if started then ": value not completely converted" else ": expected a numeric value").toList
  outOfRange arg := quoted arg ++ ": Numerical result out of range".toList
  amount precise arg n :=
    if n < -(largestAmount : Int) - 1 || (largestAmount : Int) < n then
      if precise && n < 0 then .ok (-1)
      else
        let what := if precise then "precision" else "field width"
        .error (.refused (s!"invalid {what}: ".toList ++ quoted arg))
    else .ok n
  unprintable := note "write error".toList true
  leftOver more :=
    if more = [] then none
    else some ("warning: ".toList ++ more ++
      ": character(s) following character constant have been ignored".toList)
  lastQuoteCounts := false
  escape := escapeOf false
  argumentEscape := escapeOf true

/-- The program `printf`. -/
def program : Program := fun p => do
  let args := match p.args with
    | ['-', '-'] :: rest => rest
    | args => args
  match args with
  | [] =>
    p.complain "missing operand".toList
    p.err ("Try '".toList ++ p.name ++ " --help' for more information.\n".toList)
    return .code 1
  | format :: args =>
    let (r, done) := programManner.print format args
    done.events.forM fun
      | .output text => p.out text.toBytes
      | .mistake text => p.complain text
    match r with
    | .error .wanted => return .code 0
    | .error (.refused words) =>
      p.complain words
      return .code 1
    | .ok () =>
      match done.args with
      | [] => pure ()
      | arg :: _ =>
        p.complain ("warning: ignoring excess arguments, starting with ".toList ++ quoted arg)
      return .code (if done.failed then 1 else 0)

end LexicalModel.Command.Printf
