/-!
# Scripts

A script is a sequence of blocks of code, each ended by a line feed, in a frame that keeps it from
the rest of the page.
-/

namespace LexicalModel

/-- The code of a script without its frame. -/
structure Script where
  /-- The code so far. -/
  body : String := ""
  deriving DecidableEq, Repr

namespace Script

/-- What every script starts with. -/
def prologue : String := "(function() \x7b\n'use strict';\n"

/-- What every script ends with. -/
def epilogue : String := "\x7d)();\n"

/-- A block of code as it stands in a script: ended by a line feed, nothing for no code. -/
def block (code : String) : String :=
  if code = "" ∨ code.toList.getLast? = some '\n' then code else code ++ "\n"

/-- Adds a block of code. -/
def push (s : Script) (code : String) : Script := ⟨s.body ++ block code⟩

/-- The script in its frame. -/
def finish (s : Script) : String := prologue ++ s.body ++ epilogue

end Script

end LexicalModel
