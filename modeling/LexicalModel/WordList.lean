import LexicalModel.Source
import LexicalModel.Text.Blank
import LexicalModel.Text.Lines

/-!
# Word lists

A word list has one word a line, with a count after a tab.  A word without count counts once; blank
lines, lines that start with `#` and lines without a word are skipped.  Counts of the same word add
up over all lists, in 64 bits: a sum that needs more wraps around.

* `WordList.readLine` : what a line says
* `WordList.read` : the counted words of a list, in order
* `WordList.tally` : words with their counts, in the order in which they come up first
-/

namespace LexicalModel

/-- A word and how often it was counted. -/
structure WordCount where
  /-- The word. -/
  word : String
  /-- How often it was counted. -/
  count : UInt64
  deriving DecidableEq, Repr

namespace WordList

/-- A byte order mark, which may stand in front of a list. -/
def byteOrderMark : Char := '\ufeff'

/-- Drops a byte order mark in front. -/
def dropMark : List Char → List Char
  | c :: cs => if c = byteOrderMark then cs else c :: cs
  | [] => []

/-- The number that digits write, after an optional plus sign; nothing where it needs more than 64
bits. -/
def count? (cs : List Char) : Option UInt64 :=
  let digits := match cs with
    | '+' :: rest => rest
    | _ => cs
  if digits ≠ [] ∧ digits.all Char.isDigit = true then
    let n := Json.ofDigits (digits.map Json.digitValue)
    if n ≤ Json.maxUnsigned then some (UInt64.ofNat n) else none
  else none

/-- A line that says nothing: blank, or a comment. -/
def isIdleLine (line : List Char) : Bool :=
  match Text.trimChars line with
  | [] => true
  | c :: _ => c = '#'

/-- What the line of the given number says; nothing for a line without a word. -/
def readLine (number : Nat) (line : List Char) : Except Cause (Option WordCount) :=
  if isIdleLine line then .ok none
  else
    let columns := line.splitOnP (· = '\t')
    let word := Text.trimChars (columns.headD [])
    if word = [] then .ok none
    else
      match (columns[1]?).map Text.trimChars with
      | none | some [] => .ok (some ⟨String.ofList word, 1⟩)
      | some raw =>
        match count? raw with
        | some n => .ok (some ⟨String.ofList word, n⟩)
        | none => .error (.invalidCount number (String.ofList raw) (String.ofList word))

/-- What lines say, the first of which has the given number. -/
def readLines (number : Nat) : List (List Char) → Except Cause (List WordCount)
  | [] => .ok []
  | line :: rest => do
    let counted ← readLine number line
    let more ← readLines (number + 1) rest
    return counted.toList ++ more

/-- The counted words of a list, in order. -/
def read (text : String) : Except Cause (List WordCount) :=
  readLines 1 (Text.lines (dropMark text.toList))

/-- The counted words of several lists, in order. -/
def readAll (lists : List SourceFile) : Result (List WordCount) := do
  let counted ← lists.mapM fun list =>
    Result.within (.parseWordList list.path) (Result.ofCause id (read list.text))
  return counted.flatten

/-- Adds a count to the counts of words. -/
def add (c : WordCount) : List WordCount → List WordCount
  | [] => [c]
  | d :: ds => if d.word = c.word then ⟨d.word, d.count + c.count⟩ :: ds else d :: add c ds

/-- Words with their counts, in the order in which they come up first. -/
def tally (counted : List WordCount) : List WordCount :=
  counted.foldl (fun acc c => add c acc) []

end WordList

end LexicalModel
