/-!
# Lines of a text

A line ends at a line feed, and a carriage return right before that line feed belongs to the ending.
A text that ends with a line feed has no further, empty line.
-/

namespace LexicalModel.Text

/-- Drops one carriage return at the end. -/
def dropFinalReturn (line : List Char) : List Char :=
  if line.getLast? = some '\r' then line.dropLast else line

/-- The lines among pieces cut at the line feeds: the last piece was not ended by one. -/
def linesOfPieces : List (List Char) → List (List Char)
  | [] => []
  | [last] => if last = [] then [] else [last]
  | piece :: rest => dropFinalReturn piece :: linesOfPieces rest

/-- The lines of a text, without their endings. -/
def lines (cs : List Char) : List (List Char) :=
  linesOfPieces (cs.splitOnP (· = '\n'))

end LexicalModel.Text
