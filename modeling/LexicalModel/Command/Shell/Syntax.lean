import LexicalModel.Command.Raw

/-!
# What shell scripts are made of

Words are made of pieces, which are expanded when a command runs; scripts are made of simple
commands, which are joined by operators and by the compound commands.

* `Piece`, `Word` : parts of words
* `Redirection` : what a descriptor leads to
* `Script` : commands
-/

namespace LexicalModel.Command.Shell

/-- How the file of a redirection is opened. -/
inductive Mode where
  /-- For reading. -/
  | input
  /-- For writing from its start. -/
  | output
  /-- For writing at its end. -/
  | append
  deriving DecidableEq, Repr

mutual

/-- A piece of a word.  `quoted` says that it stands in quotes. -/
inductive Piece where
  /-- A text. -/
  | text (quoted : Bool) (r : Raw)
  /-- A parameter. -/
  | parameter (quoted : Bool) (name : Raw) (use : Use)
  /-- What commands write. -/
  | output (quoted : Bool) (body : Option Script)
  /-- The value of an expression. -/
  | value (quoted : Bool) (body : List Piece)

/-- What is taken of a parameter. -/
inductive Use where
  /-- Its value. -/
  | plain
  /-- The length of its value. -/
  | length
  /-- The value, or something else, as an operator says; with a colon an empty value counts as
  none. -/
  | instead (operator : Char) (colon : Bool) (word : List Piece)
  /-- The value without what matches a pattern at its start or end. -/
  | trim (front longest : Bool) (pattern : List Piece)
  /-- Nothing: it is ill-formed. -/
  | bad

/-- What a descriptor leads to. -/
inductive Redirection where
  /-- To a file. -/
  | file (descriptor : Nat) (mode : Mode) (name : List Piece)
  /-- Where another descriptor leads to. -/
  | duplicate (descriptor : Nat) (target : List Piece)
  /-- To a text in the script. -/
  | document (descriptor : Nat) (index : Nat)

/-- Commands. -/
inductive Script where
  /-- A simple command: assignments, words and redirections. -/
  | simple (line : Nat) (assignments words : List (List Piece)) (redirections : List Redirection)
  /-- Commands each of which reads what the one before it writes. -/
  | pipeline (line : Nat) (parts : List Script)
  /-- One command and then another. -/
  | sequence (first second : Script)
  /-- One command, and if it succeeds another. -/
  | both (first second : Script)
  /-- One command, and if it fails another. -/
  | either (first second : Script)
  /-- A command that succeeds where another fails. -/
  | negation (body : Script)
  /-- Commands in a shell of their own. -/
  | subshell (body : Option Script)
  /-- Commands with redirections. -/
  | redirected (line : Nat) (body : Script) (redirections : List Redirection)
  /-- One or another command, as a test says. -/
  | choice (test yes : Script) (no : Option Script)
  /-- Commands that are repeated while a test succeeds, or until it does. -/
  | loop (untilSuccess : Bool) (test body : Script)
  /-- Commands for each of some words. -/
  | each (line : Nat) (name : Raw) (words : List (List Piece)) (body : Script)
  /-- The commands of the first pattern that matches a word. -/
  | select (line : Nat) (word : List Piece) (arms : List (List (List Piece) × Option Script))
  /-- A function. -/
  | define (name : Raw) (body : Script)

end

/-- A word. -/
abbrev Word := List Piece

/-- Puts a character in front of a word. -/
def Piece.consChar (quoted : Bool) (c : Char) : Word → Word
  | .text q r :: rest => if q = quoted then .text q (c :: r) :: rest
    else .text quoted [c] :: .text q r :: rest
  | rest => .text quoted [c] :: rest

/-- The text of a word in which nothing is quoted or expanded. -/
def Piece.plain? : Word → Option Raw
  | [.text false r] => some r
  | _ => none

/-- Whether a name can be that of a variable. -/
def isName (r : Raw) : Bool :=
  match r with
  | c :: rest => (isLetter c || c = '_') && rest.all isWord
  | [] => false

/-- The name and the value of an assignment. -/
def Piece.assignment? : Word → Option (Raw × Word)
  | .text false r :: rest =>
    let name := r.takeWhile isWord
    match r.drop name.length with
    | '=' :: front =>
      if isName name then some (name, if front = [] then rest else .text false front :: rest)
      else none
    | _ => none
  | _ => none

end LexicalModel.Command.Shell
