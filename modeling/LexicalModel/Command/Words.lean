import LexicalModel.Failure

/-!
# Words of a command line

A command line is split into words at blanks, tabs and line feeds.  Quotes keep a word together,
single quotes take everything as it is, and a backslash takes the next character as it is; inside
double quotes only before a character that means something there.  A word that starts with `#`
begins a comment up to the end of the line.
-/

namespace LexicalModel.Command

/-- Where a reader of a command line stands. -/
inductive SplitState where
  /-- Between words. -/
  | between
  /-- Between words, after a backslash. -/
  | betweenEscape
  /-- In a word. -/
  | word
  /-- In a word, after a backslash. -/
  | wordEscape
  /-- In single quotes. -/
  | single
  /-- In double quotes. -/
  | double
  /-- In double quotes, after a backslash. -/
  | doubleEscape
  /-- In a comment. -/
  | comment
  deriving DecidableEq, Repr

/-- A character that separates words. -/
def isDelimiter (c : Char) : Bool := c = ' ' || c = '\t' || c = '\n'

/-- A character that a backslash takes its meaning from inside double quotes. -/
def isSpecialInDouble (c : Char) : Bool := c = '$' || c = '\x60' || c = '"' || c = '\\'

/-- Splits the rest of a command line; `word` holds the word at hand, last character first.  Nothing
where a quote stays open. -/
def splitFrom : SplitState → List Char → List Char → Option (List String)
  | .between, _, [] => some []
  | .comment, _, [] => some []
  | .betweenEscape, word, [] | .wordEscape, word, [] =>
    some [String.ofList (('\\' :: word).reverse)]
  | .word, word, [] => some [String.ofList word.reverse]
  | .single, _, [] | .double, _, [] | .doubleEscape, _, [] => none
  | .between, word, c :: cs =>
    if c = '\x27' then splitFrom .single word cs
    else if c = '"' then splitFrom .double word cs
    else if c = '\\' then splitFrom .betweenEscape word cs
    else if isDelimiter c then splitFrom .between word cs
    else if c = '#' then splitFrom .comment word cs
    else splitFrom .word (c :: word) cs
  | .betweenEscape, word, c :: cs =>
    if c = '\n' then splitFrom .between word cs else splitFrom .word (c :: word) cs
  | .word, word, c :: cs =>
    if c = '\x27' then splitFrom .single word cs
    else if c = '"' then splitFrom .double word cs
    else if c = '\\' then splitFrom .wordEscape word cs
    else if isDelimiter c then
      (splitFrom .between [] cs).map (String.ofList word.reverse :: ·)
    else splitFrom .word (c :: word) cs
  | .wordEscape, word, c :: cs =>
    if c = '\n' then splitFrom .word word cs else splitFrom .word (c :: word) cs
  | .single, word, c :: cs =>
    if c = '\x27' then splitFrom .word word cs else splitFrom .single (c :: word) cs
  | .double, word, c :: cs =>
    if c = '"' then splitFrom .word word cs
    else if c = '\\' then splitFrom .doubleEscape word cs
    else splitFrom .double (c :: word) cs
  | .doubleEscape, word, c :: cs =>
    if c = '\n' then splitFrom .double word cs
    else if isSpecialInDouble c then splitFrom .double (c :: word) cs
    else splitFrom .double (c :: '\\' :: word) cs
  | .comment, word, c :: cs =>
    if c = '\n' then splitFrom .between word cs else splitFrom .comment word cs

/-- The words of a command line; nothing where a quote stays open. -/
def split? (line : String) : Option (List String) := splitFrom .between [] line.toList

end LexicalModel.Command
