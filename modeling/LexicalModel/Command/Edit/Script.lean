import LexicalModel.Command.Pattern.Posix

/-!
# Scripts of the stream editor

A script is a list of commands, each with a condition on the lines it works on.  Blocks and labels
are places in the list, so that a jump is a number.

* `Address`, `Condition` : the lines that a command works on
* `Replacement` : what a match is replaced by
* `Instruction` : what is done
-/

namespace LexicalModel.Command.Edit

/-- A pattern of a script; nothing stands for the one that was used last. -/
abbrev Rx := Option Matcher

/-- Where a range of lines starts, or a single line. -/
inductive Address where
  /-- A line by its number. -/
  | line (n : Nat)
  /-- Every so many lines from a first one on. -/
  | step (first step : Nat)
  /-- The last line. -/
  | last
  /-- Lines that match. -/
  | pattern (r : Rx)

/-- Where a range of lines ends. -/
inductive Stop where
  /-- At an address. -/
  | address (a : Address)
  /-- So many lines after its start. -/
  | after (n : Nat)
  /-- At the next line whose number is a multiple. -/
  | multiple (n : Nat)

/-- The lines that a command works on. -/
structure Condition where
  /-- The line, or the start of a range. -/
  start : Option Address := none
  /-- The end of a range. -/
  stop : Option Stop := none
  /-- All other lines. -/
  negated : Bool := false

/-- What becomes of the letters of a text. -/
inductive Letters where
  /-- Nothing. -/
  | same
  /-- They become capitals. -/
  | capital
  /-- They become small. -/
  | small
  deriving DecidableEq, Repr

/-- What becomes of the letters of a part, and of its first one. -/
structure Casing where
  /-- All letters. -/
  all : Letters := .same
  /-- The first letter. -/
  first : Letters := .same

/-- A part of a replacement: a text, and then perhaps what a group has matched. -/
structure Part where
  /-- The text. -/
  text : Raw
  /-- The group; zero for the whole match. -/
  group : Option Nat
  /-- The casing. -/
  casing : Casing

/-- What a match is replaced by. -/
abbrev Replacement := List Part

/-- Where lines are written to. -/
inductive Sink where
  /-- To the standard output. -/
  | standard
  /-- To those who watch for mistakes. -/
  | mistakes
  /-- To a file. -/
  | file (name : Raw)
  deriving DecidableEq, Repr

/-- A substitution. -/
structure Substitution where
  /-- What is looked for. -/
  pattern : Rx
  /-- What it is replaced by. -/
  replacement : Replacement
  /-- All matches are replaced. -/
  everywhere : Bool := false
  /-- The line is written after a replacement. -/
  prints : Bool := false
  /-- The first match to be replaced; the first of all where none is given. -/
  number : Option Nat := none
  /-- Where the line is written to. -/
  sink : Option Sink := none

/-- What a command does. -/
inductive Instruction where
  /-- Starts a block; elsewhere goes on after it. -/
  | block (stop : Nat)
  /-- Ends a block, or does nothing else. -/
  | nothing
  /-- Writes the number of the line. -/
  | number
  /-- Writes a text after the line. -/
  | append (text : Raw)
  /-- Writes a text before the line. -/
  | insert (text : Raw)
  /-- Writes a text instead of the lines. -/
  | change (text : Raw)
  /-- Goes on elsewhere; past the end where there is no label. -/
  | branch (label : Raw)
  /-- Goes on elsewhere if there was a replacement. -/
  | branchIf (label : Raw)
  /-- Goes on elsewhere if there was none. -/
  | branchUnless (label : Raw)
  /-- Drops the line. -/
  | delete
  /-- Drops the first line of several. -/
  | deleteFirst
  /-- Takes the kept text. -/
  | get
  /-- Adds the kept text. -/
  | getMore
  /-- Keeps the line. -/
  | hold
  /-- Adds the line to the kept text. -/
  | holdMore
  /-- Exchanges the line and the kept text. -/
  | exchange
  /-- Writes the line so that every character can be seen. -/
  | list (width : Option Nat)
  /-- Goes on with the next line. -/
  | next
  /-- Adds the next line. -/
  | nextMore
  /-- Writes the line. -/
  | print
  /-- Writes the first line of several. -/
  | printFirst
  /-- Ends. -/
  | quit (status : Nat)
  /-- Ends and writes nothing more. -/
  | quitSilently (status : Nat)
  /-- Writes a file after the line. -/
  | readFile (name : Raw)
  /-- Replaces. -/
  | substitute (s : Substitution)
  /-- Writes the line to a file. -/
  | writeLine (sink : Sink)
  /-- Replaces bytes by others. -/
  | transliterate (table : ByteArray)

/-- A command and the lines it works on. -/
structure Step where
  /-- The lines. -/
  condition : Condition
  /-- What is done. -/
  instruction : Instruction

/-- A script. -/
structure Script where
  /-- The commands. -/
  steps : Array Step := #[]
  /-- The labels, and where they stand. -/
  labels : List (Raw × Nat) := []
  /-- Lines are not written by themselves. -/
  quiet : Bool := false

/-- Where a jump leads. -/
def Script.target (s : Script) (label : Raw) : Nat :=
  if label = [] then s.steps.size else (s.labels.lookup label).getD s.steps.size

/-- The files that a script writes to. -/
def Script.sinks (s : Script) : List Raw :=
  (s.steps.toList.filterMap fun step =>
    match step.instruction with
    | .writeLine (.file name) => some name
    | .substitute { sink := some (.file name), .. } => some name
    | _ => none).eraseDups

end LexicalModel.Command.Edit
