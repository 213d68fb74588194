import LexicalModel.Command.Shell.Syntax

/-!
# Reading shell scripts

A script is read line by line: all commands of a line are read before any of them runs.  Texts in
the script that commands read, the here-documents, follow the line that mentions them; a command
knows its document by a number.

* `Input` : what is left to be read
* `Reading` : parts of reading
* `Input.nextLine` : the commands of the next line
-/

namespace LexicalModel.Command.Shell

/-- A here-document that is to be read at the end of the line. -/
structure Awaited where
  /-- Its number. -/
  index : Nat
  /-- The line that ends it. -/
  delimiter : Raw
  /-- Tabs in front of its lines are dropped. -/
  stripped : Bool
  /-- Nothing in it is expanded. -/
  literal : Bool

/-- A part of a script as the grammar sees it. -/
inductive Token where
  /-- The end of the script. -/
  | stop
  /-- The end of a line. -/
  | newline
  /-- An operator. -/
  | operator (text : String)
  /-- A redirection, with its descriptor. -/
  | redirect (descriptor : Option Nat) (text : String)
  /-- A word. -/
  | word (w : Word)

/-- What is left to be read. -/
structure Input where
  /-- The text. -/
  rest : Raw
  /-- The number of the line. -/
  line : Nat := 1
  /-- A token that was read and put back. -/
  pushed : Option Token := none
  /-- The here-documents to come. -/
  awaited : List Awaited := []
  /-- The here-documents that were read. -/
  documents : List (Nat × Word) := []
  /-- The number of the next here-document. -/
  next : Nat := 0

/-- What is wrong with a script, and in which line. -/
structure Flaw where
  /-- The words about it. -/
  words : Raw
  /-- The line. -/
  line : Nat

/-- A part of reading. -/
abbrev Reading := StateT Input (Except Flaw)

namespace Reading

/-- Something is wrong. -/
def fail {α : Type} (words : Raw) : Reading α := do throw ⟨words, (← get).line⟩

/-- The next character. -/
def peek? : Reading (Option Char) := do return (← get).rest.head?

/-- Goes past a character. -/
def skip : Reading Unit := modify fun i =>
  match i.rest with
  | [] => i
  | c :: rest => { i with rest, line := if c = '\n' then i.line + 1 else i.line }

/-- Goes past a backslash that joins two lines. -/
def joinLines : Nat → Reading Unit
  | 0 => return
  | fuel + 1 => do
    match (← get).rest with
    | '\\' :: '\n' :: _ =>
      skip
      skip
      joinLines fuel
    | _ => return

/-- The next character after joining lines. -/
def peekJoined? : Reading (Option Char) := do
  match (← get).rest with
  | '\\' :: '\n' :: rest => joinLines (rest.length + 2)
  | _ => return (← get).rest.head?
  peek?

/-- Goes past characters while a test holds. -/
def takeWhile (test : Char → Bool) : Nat → Reading Raw
  | 0 => return []
  | fuel + 1 => do
    match ← peekJoined? with
    | some c =>
      if test c then
        skip
        return c :: (← takeWhile test fuel)
      else return []
    | none => return []

/-- Enough for what is left. -/
def budget : Reading Nat := do return (← get).rest.length + 2

end Reading

open Reading

/-- How far a list of commands goes. -/
inductive Extent where
  /-- To the end of the line. -/
  | line
  /-- To a word or an operator that ends it; there has to be a command. -/
  | block
  /-- The same, but there need not be any. -/
  | perhaps
  deriving DecidableEq

/-- Reads a list of commands. -/
abbrev ListReader := Extent → Reading (Option Script)

/-- Where a piece of text stands. -/
inductive Context where
  /-- In a word of its own. -/
  | bare
  /-- In double quotes. -/
  | quotes
  /-- In braces, which may stand in double quotes. -/
  | braces (quoted : Bool)
  /-- In an expression, in so many parentheses. -/
  | expression (depth : Nat)
  /-- In a here-document. -/
  | document
  deriving DecidableEq

/-- Whether what stands in a context is quoted. -/
def Context.isQuoted : Context → Bool
  | bare | braces false => false
  | _ => true

/-- Whether a character ends a word. -/
def endsWord (c : Char) : Bool := " \t\n;&|<>()".toList.contains c

/-- Whether a character is a parameter of its own. -/
def isSpecial (c : Char) : Bool := "@*#?$-".toList.contains c

/-! ### Pieces -/

/-- The text between single quotes, after the first. -/
def singleQuoted : Nat → Reading Raw
  | 0 => fail "Syntax error: Unterminated quoted string".toList
  | fuel + 1 => do
    match ← peek? with
    | none => fail "Syntax error: Unterminated quoted string".toList
    | some c =>
      skip
      if c = '\x27' then return [] else return c :: (← singleQuoted fuel)

/-- The text between backquotes, after the first, with the backslashes that only count there
dropped. -/
def backquoted (quoted : Bool) : Nat → Reading Raw
  | 0 => fail "Syntax error: EOF in backquote substitution".toList
  | fuel + 1 => do
    match ← peek? with
    | none => fail "Syntax error: EOF in backquote substitution".toList
    | some '\x60' =>
      skip
      return []
    | some '\\' =>
      skip
      match ← peek? with
      | none => return '\\' :: (← backquoted quoted fuel)
      | some c =>
        skip
        if c = '\n' then backquoted quoted fuel
        else if c = '\\' || c = '\x60' || c = '$' || (c = '"' && quoted) then
          return c :: (← backquoted quoted fuel)
        else return '\\' :: c :: (← backquoted quoted fuel)
    | some c =>
      skip
      return c :: (← backquoted quoted fuel)

/-- Reads another text as a script, with the documents and the line of this one. -/
def readInside {α : Type} (text : Raw) (r : Reading α) : Reading α := do
  let i ← get
  set { i with rest := text, pushed := none, awaited := [] }
  let x ← r
  modify fun j =>
    { i with documents := j.documents, next := j.next }
  return x

/-- A name of a parameter in braces: a name, a number or a special one. -/
def bracedName : Reading (Option Raw) := do
  let fuel ← budget
  match ← peekJoined? with
  | none => return none
  | some c =>
    if isLetter c || c = '_' then return some (← takeWhile isWord fuel)
    else if isDigit c then return some (← takeWhile isDigit fuel)
    else if isSpecial c then
      skip
      return some [c]
    else return none

/-- The use of a parameter in braces, after its name; `inner` reads the word in it. -/
def bracedUse (inner : (trims : Bool) → Reading Word) : Reading Use := do
  match ← peekJoined? with
  | some '}' =>
    skip
    return .plain
  | some ':' =>
    skip
    match ← peekJoined? with
    | some c =>
      if "-+?=".toList.contains c then
        skip
        return .instead c true (← inner false)
      else
        let _ ← inner false
        return .bad
    | none =>
      let _ ← inner false
      return .bad
  | some c =>
    if "-+?=".toList.contains c then
      skip
      return .instead c false (← inner false)
    else if c = '%' || c = '#' then
      skip
      let longest := (← peekJoined?) = some c
      if longest then skip
      return .trim (c = '#') longest (← inner true)
    else
      let _ ← inner false
      return .bad
  | none =>
    let _ ← inner false
    return .bad

/-- A parameter in braces, after the opening one. -/
def braced (quoted : Bool) (inner : (trims : Bool) → Reading Word) : Reading Piece := do
  match ← peekJoined? with
  | some '#' =>
    skip
    -- the length of a parameter, or a use of the number of parameters
    let i ← get
    match ← peekJoined? with
    | some '}' => return .parameter quoted ['#'] (← bracedUse inner)
    | _ =>
      match ← bracedName with
      | some name =>
        if (← peekJoined?) = some '}' then
          skip
          return .parameter quoted name .length
        else if isSpecial (name.headD ' ') then
          set i
          return .parameter quoted ['#'] (← bracedUse inner)
        else
          let _ ← inner false
          return .parameter quoted name .bad
      | none => return .parameter quoted ['#'] (← bracedUse inner)
  | _ =>
    match ← bracedName with
    | some name => return .parameter quoted name (← bracedUse inner)
    | none =>
      let _ ← inner false
      return .parameter quoted [] .bad

/-- What a dollar sign starts, after it; `inner` reads pieces in another context. -/
def dollar (list : ListReader) (context : Context) (inner : Context → Reading Word) :
    Reading Piece := do
  let quoted := context.isQuoted
  match ← peekJoined? with
  | some '(' =>
    skip
    if (← peekJoined?) = some '(' then
      skip
      return .value quoted (← inner (.expression 0))
    else
      let i ← get
      set { i with pushed := none }
      let body ← list .perhaps
      match (← get).pushed with
      | some (.operator ")") =>
        modify fun j => { j with pushed := i.pushed }
        return .output quoted body
      | some .stop | none => fail "Syntax error: end of file unexpected (expecting \")\")".toList
      | some _ => fail "Syntax error: word unexpected (expecting \")\")".toList
  | some '\x7b' =>
    skip
    braced quoted fun trims => inner (.braces (quoted && !trims))
  | some c =>
    if isLetter c || c = '_' then
      return .parameter quoted (← takeWhile isWord (← budget)) .plain
    else if isDigit c || isSpecial c then
      skip
      return .parameter quoted [c] .plain
    else return .text quoted ['$']
  | none => return .text quoted ['$']

/-- What a backquote starts, after it. -/
def backquote (list : ListReader) (quoted : Bool) : Reading Piece := do
  let text ← backquoted quoted (← budget)
  let body ← readInside text do
    let body ← list .perhaps
    match (← get).pushed with
    | some .stop | none => return body
    | some _ => fail "Syntax error: word unexpected".toList
  return .output quoted body

/-- Whether a backslash takes the meaning of a character inside of double quotes. -/
def isEscapable (context : Context) (c : Char) : Bool :=
  c = '$' || c = '\x60' || c = '\\' ||
    match context with
    | .document => false
    | .braces _ => c = '"' || c = '\x7d'
    | _ => c = '"'

/-- Reads pieces up to the end of their context. -/
def pieces (list : ListReader) : Nat → Context → Reading Word
  | 0, _ => fail "Syntax error: end of file unexpected".toList
  | fuel + 1, context => do
    let quoted := context.isQuoted
    match ← peek? with
    | none =>
      match context with
      | .bare | .document => return []
      | .quotes => fail "Syntax error: Unterminated quoted string".toList
      | .braces _ => fail "Syntax error: Missing '\x7d'".toList
      | .expression _ => fail "Syntax error: Missing '))'".toList
    | some c =>
      if c = '\\' then
        skip
        match ← peek? with
        | none => return Piece.consChar true '\\' (← pieces list fuel context)
        | some d =>
          if d = '\n' then
            skip
            pieces list fuel context
          else if !quoted || isEscapable context d then
            skip
            return Piece.consChar true d (← pieces list fuel context)
          else return Piece.consChar true '\\' (← pieces list fuel context)
      else if c = '\x27' && !quoted then
        skip
        let text ← singleQuoted (← budget)
        return .text true text :: (← pieces list fuel context)
      else if c = '"' && context ≠ .document && context ≠ .quotes then
        skip
        match context with
        | .expression _ => pieces list fuel context
        | _ =>
          let inside ← pieces list fuel .quotes
          -- all parameters alone in quotes may be no argument at all
          let marked := match inside with
            | [.parameter _ ['@'] .plain] => inside
            | _ => .text true [] :: inside
          return marked ++ (← pieces list fuel context)
      else if c = '"' && context = .quotes then
        skip
        return []
      else if c = '$' then
        skip
        let piece ← dollar list context (pieces list fuel)
        return piece :: (← pieces list fuel context)
      else if c = '\x60' then
        skip
        let piece ← backquote list quoted
        return piece :: (← pieces list fuel context)
      else
        match context with
        | .bare =>
          if endsWord c then return []
          else
            skip
            return Piece.consChar false c (← pieces list fuel context)
        | .braces _ =>
          skip
          if c = '\x7d' then return []
          else return Piece.consChar quoted c (← pieces list fuel context)
        | .expression depth =>
          skip
          if c = '(' then
            return Piece.consChar quoted c (← pieces list fuel (.expression (depth + 1)))
          else if c = ')' then
            match depth with
            | d + 1 => return Piece.consChar quoted c (← pieces list fuel (.expression d))
            | 0 =>
              if (← peekJoined?) = some ')' then
                skip
                return []
              else fail "Syntax error: Missing '))'".toList
          else return Piece.consChar quoted c (← pieces list fuel context)
        | _ =>
          skip
          return Piece.consChar quoted c (← pieces list fuel context)

/-! ### Here-documents -/

/-- The lines of a document up to the one that ends it. -/
def documentLines (a : Awaited) : Nat → Reading Raw
  | 0 => return []
  | fuel + 1 => do
    let i ← get
    if i.rest = [] then return []
    else
      let line := i.rest.takeWhile (· ≠ '\n')
      let after := i.rest.drop line.length
      let ended := after.head? = some '\n'
      set { i with rest := after.drop 1, line := if ended then i.line + 1 else i.line }
      let line := if a.stripped then line.dropWhile (· = '\t') else line
      if line = a.delimiter then return []
      else
        let more ← documentLines a fuel
        return line ++ (if ended then '\n' :: more else more)

/-- Reads a document. -/
def readDocument (list : ListReader) (a : Awaited) : Reading Unit := do
  let text ← documentLines a (← budget)
  let body ← if a.literal then pure [.text true text]
    else readInside text do pieces list (← budget) .document
  modify fun i => { i with documents := (a.index, body) :: i.documents }

/-- Reads documents. -/
def readDocuments (list : ListReader) : List Awaited → Reading Unit
  | [] => return
  | a :: rest => do
    readDocument list a
    readDocuments list rest

/-- Reads the documents that are awaited. -/
def readAwaited (list : ListReader) : Reading Unit := do
  let i ← get
  set { i with awaited := [] }
  readDocuments list i.awaited.reverse

/-! ### Tokens -/

/-- Goes past blanks, joined lines and comments. -/
def skipBlanks : Nat → Reading Unit
  | 0 => return
  | fuel + 1 => do
    match ← peekJoined? with
    | some c =>
      if c = ' ' || c = '\t' then
        skip
        skipBlanks fuel
      else if c = '#' then
        modify fun i => { i with rest := i.rest.dropWhile (· ≠ '\n') }
      else return
    | none => return

/-- Goes past a character if it comes next. -/
def accept (c : Char) : Reading Bool := do
  if (← peekJoined?) = some c then
    skip
    return true
  else return false

/-- An operator that starts with a character; nothing where it starts none. -/
def operator? (c : Char) : Reading (Option Token) := do
  match c with
  | ';' => return some (.operator (if ← accept ';' then ";;" else ";"))
  | '&' => return some (.operator (if ← accept '&' then "&&" else "&"))
  | '|' => return some (.operator (if ← accept '|' then "||" else "|"))
  | '(' => return some (.operator "(")
  | ')' => return some (.operator ")")
  | '<' =>
    if ← accept '<' then
      return some (.redirect none (if ← accept '-' then "<<-" else "<<"))
    else if ← accept '&' then return some (.redirect none "<&")
    else return some (.redirect none "<")
  | '>' =>
    if ← accept '>' then return some (.redirect none ">>")
    else if ← accept '&' then return some (.redirect none ">&")
    else return some (.redirect none ">")
  | _ => return none

/-- The next token. -/
def readToken (list : ListReader) : Reading Token := do
  let i ← get
  match i.pushed with
  | some t =>
    set { i with pushed := none }
    return t
  | none =>
    skipBlanks (← budget)
    match ← peek? with
    | none => return .stop
    | some '\n' =>
      skip
      readAwaited list
      return .newline
    | some c =>
      if endsWord c then
        skip
        return (← operator? c).getD (.operator (String.singleton c))
      else
        let w ← pieces list (2 * (← budget)) .bare
        match Piece.plain? w, ← peek? with
        | some [d], some e =>
          if isDigit d && (e = '<' || e = '>') then
            skip
            match ← operator? e with
            | some (.redirect _ text) => return .redirect (some (d.toNat - 48)) text
            | _ => return .word w
          else return .word w
        | _, _ => return .word w

/-- Puts a token back. -/
def putBack (t : Token) : Reading Unit := modify fun i => { i with pushed := some t }

/-- The next token that is not the end of a line. -/
def readPastLines (list : ListReader) : Nat → Reading Token
  | 0 => return .stop
  | fuel + 1 => do
    match ← readToken list with
    | .newline => readPastLines list fuel
    | t => return t

/-- The next token that is not the end of a line. -/
def readPast (list : ListReader) : Reading Token := do readPastLines list (← budget)

/-- The words that have a meaning of their own where a command may start. -/
def keywords : List String :=
  ["!", "case", "do", "done", "elif", "else", "esac", "fi", "for", "if", "in", "then", "until",
    "while", "\x7b", "\x7d"]

/-- The keyword that a token is. -/
def Token.keyword? : Token → Option String
  | word w =>
    match Piece.plain? w with
    | some r =>
      let s := String.ofList r
      if keywords.contains s then some s else none
    | none => none
  | _ => none

/-- Whether a token is a keyword. -/
def Token.isKeyword (t : Token) (k : String) : Bool := t.keyword? = some k

/-- Whether a token is an operator. -/
def Token.isOperator (t : Token) (o : String) : Bool :=
  match t with
  | operator text => text = o
  | _ => false

/-- A token in words. -/
def Token.words : Token → String
  | stop => "end of file"
  | newline => "newline"
  | operator text => s!"\"{text}\""
  | redirect _ _ => "redirection"
  | word w =>
    match (word w).keyword? with
    | some k => s!"\"{k}\""
    | none => "word"

/-- A token stands where it must not. -/
def unexpected {α : Type} (t : Token) (expected : Option String) : Reading α :=
  let hint := match expected with
    | some e => s!" (expecting \"{e}\")"
    | none => ""
  fail ("Syntax error: ".toList ++ t.words.toList ++ " unexpected".toList ++ hint.toList)

/-- Whether a token ends a list of commands. -/
def Token.endsList : Token → Bool
  | stop | newline => true
  | operator text => text = ")" || text = ";;"
  | word w =>
    match (word w).keyword? with
    | some k => ["do", "done", "elif", "else", "esac", "fi", "then", "\x7d"].contains k
    | none => false
  | redirect _ _ => false

/-! ### Redirections -/

/-- The text of a word without its quotes. -/
def unquotedText (w : Word) : Raw :=
  w.flatMap fun
    | .text _ r => r
    | .parameter _ name _ => '$' :: name
    | _ => []

/-- Whether a part of a word is quoted. -/
def hasQuotes (w : Word) : Bool :=
  w.any fun
    | .text q _ => q
    | _ => false

/-- Reads what a redirection leads to. -/
def redirection (list : ListReader) (descriptor : Option Nat) (text : String) :
    Reading Redirection := do
  match ← readToken list with
  | .word w =>
    match text with
    | "<" => return .file (descriptor.getD 0) .input w
    | ">" => return .file (descriptor.getD 1) .output w
    | ">>" => return .file (descriptor.getD 1) .append w
    | "<&" => return .duplicate (descriptor.getD 0) w
    | ">&" => return .duplicate (descriptor.getD 1) w
    | _ =>
      let i ← get
      let a : Awaited :=
        { index := i.next, delimiter := unquotedText w, stripped := text = "<<-"
          literal := hasQuotes w }
      set { i with next := i.next + 1, awaited := a :: i.awaited }
      return .document (descriptor.getD 0) a.index
  | t => unexpected t none

/-! ### Commands -/

/-- The special built-in commands, whose names functions must not have. -/
def specialNames : List String :=
  [".", ":", "break", "continue", "eval", "exec", "exit", "export", "local", "readonly", "return",
    "set", "shift", "trap", "unset"]

/-- What was read of a simple command. -/
structure Simple where
  /-- The assignments. -/
  assignments : List Word := []
  /-- The words. -/
  words : List Word := []
  /-- The redirections. -/
  redirections : List Redirection := []

/-- Reads a simple command, or a function; `body` reads the body of a function. -/
def simple (list : ListReader) (body : Reading Script) (line : Nat) :
    Nat → Simple → Reading Script
  | 0, _ => fail "Syntax error: end of file unexpected".toList
  | fuel + 1, s => do
    let finish : Script :=
      .simple line s.assignments.reverse s.words.reverse s.redirections.reverse
    match ← readToken list with
    | .word w =>
      match s.words, Piece.assignment? w with
      | [], some _ => simple list body line fuel { s with assignments := w :: s.assignments }
      | _, _ => simple list body line fuel { s with words := w :: s.words }
    | .redirect descriptor text =>
      let r ← redirection list descriptor text
      simple list body line fuel { s with redirections := r :: s.redirections }
    | .operator "(" =>
      match s with
      | { assignments := [], words := [w], redirections := [] } =>
        match ← readToken list with
        | .operator ")" =>
          let name := (Piece.plain? w).getD []
          if !isName name || specialNames.contains (String.ofList name) then
            fail "Syntax error: Bad function name".toList
          return .define name (← body)
        | t => unexpected t (some ")")
      | _ =>
        putBack (.operator "(")
        return finish
    | t =>
      putBack t
      return finish

/-- Reads the redirections after a compound command. -/
def redirections (list : ListReader) : Nat → Reading (List Redirection)
  | 0 => return []
  | fuel + 1 => do
    match ← readToken list with
    | .redirect descriptor text =>
      let r ← redirection list descriptor text
      return r :: (← redirections list fuel)
    | t =>
      putBack t
      return []

/-- Reads words up to the end of a line or a semicolon. -/
def wordsToEnd (list : ListReader) : Nat → Reading (List Word)
  | 0 => return []
  | fuel + 1 => do
    match ← readToken list with
    | .word w => return w :: (← wordsToEnd list fuel)
    | .newline | .operator ";" => return []
    | t => unexpected t none

/-- Reads commands that have to be there. -/
def block (list : ListReader) : Reading Script := do
  match ← list .block with
  | some s => return s
  | none =>
    match (← get).pushed with
    | some t => unexpected t none
    | none => unexpected .stop none

/-- Asks for a keyword. -/
def expect (list : ListReader) (k : String) : Reading Unit := do
  let t ← readToken list
  if !t.isKeyword k then unexpected t (some k)

/-- Reads a choice after its test. -/
def choice (list : ListReader) : Nat → Reading Script
  | 0 => fail "Syntax error: end of file unexpected".toList
  | fuel + 1 => do
    let test ← block list
    expect list "then"
    let yes ← block list
    let t ← readToken list
    match t.keyword? with
    | some "elif" => return .choice test yes (some (← choice list fuel))
    | some "else" =>
      let no ← block list
      expect list "fi"
      return .choice test yes (some no)
    | some "fi" => return .choice test yes none
    | _ => unexpected t (some "fi")

/-- Reads the patterns of an arm up to its parenthesis. -/
def armPatterns (list : ListReader) : Nat → Token → Reading (List Word)
  | 0, _ => return []
  | fuel + 1, t => do
    match t with
    | .word w =>
      match ← readToken list with
      | .operator "|" =>
        let t ← readToken list
        return w :: (← armPatterns list fuel t)
      | .operator ")" => return [w]
      | t => unexpected t (some ")")
    | _ => unexpected (← readToken list) (some ")")

/-- Reads the arms of a selection. -/
def arms (list : ListReader) : Nat → Token → Reading (List (List Word × Option Script))
  | 0, _ => return []
  | fuel + 1, t => do
    if t.isKeyword "esac" then return []
    else
      let t ← if t.isOperator "(" then readToken list else pure t
      let patterns ← armPatterns list fuel t
      let body ← list .perhaps
      let t ← readPast list
      if t.isKeyword "esac" then return [(patterns, body)]
      else if t.isOperator ";;" then
        let t ← readPast list
        return (patterns, body) :: (← arms list fuel t)
      else unexpected t (some ";;")

/-- Reads a compound command that starts with a keyword, after it; nothing where the keyword starts
none. -/
def compound? (list : ListReader) (line : Nat) (k : String) : Reading (Option Script) := do
  let fuel ← budget
  match k with
  | "if" => return some (← choice list fuel)
  | "while" | "until" =>
    let test ← block list
    expect list "do"
    let body ← block list
    expect list "done"
    return some (.loop (k = "until") test body)
  | "for" =>
    match ← readToken list with
    | .word w =>
      let name := (Piece.plain? w).getD []
      if !isName name then fail "Syntax error: Bad for loop variable".toList
      let t ← readPast list
      let words ← if t.isKeyword "in" then wordsToEnd list fuel
        else do
          if !t.isOperator ";" then putBack t
          pure [[.parameter true ['@'] .plain]]
      let t ← readPast list
      if !t.isKeyword "do" then unexpected t (some "do")
      let body ← block list
      expect list "done"
      return some (.each line name words body)
    | _ => fail "Syntax error: Bad for loop variable".toList
  | "case" =>
    match ← readToken list with
    | .word w =>
      let t ← readPast list
      if !t.isKeyword "in" then unexpected t (some "in")
      let t ← readPast list
      return some (.select line w (← arms list fuel t))
    | t => unexpected t none
  | "\x7b" =>
    let body ← block list
    expect list "\x7d"
    return some body
  | _ => return none

/-- Adds redirections to a command. -/
def withRedirections (list : ListReader) (line : Nat) (s : Script) : Reading Script := do
  match ← redirections list (← budget) with
  | [] => return s
  | rs => return .redirected line s rs

/-- Reads a command; the depth bounds how deep functions nest. -/
def command (list : ListReader) : Nat → Token → Reading Script
  | 0, t => unexpected t none
  | depth + 1, t => do
    let line := (← get).line
    match t with
    | .operator "(" =>
      let body ← block list
      let t ← readToken list
      if !t.isOperator ")" then unexpected t (some ")")
      withRedirections list line (.subshell (some body))
    | .word _ | .redirect _ _ =>
      match t.keyword? with
      | some k =>
        match ← compound? list line k with
        | some s => withRedirections list line s
        | none => unexpected t none
      | none =>
        putBack t
        simple list (do command list depth (← readPast list)) line (← budget) {}
    | t => unexpected t none

/-- How deep functions nest. -/
def functionDepth : Nat := 100

/-- Reads the rest of a pipeline. -/
def pipelineRest (list : ListReader) : Nat → Reading (List Script)
  | 0 => return []
  | fuel + 1 => do
    let t ← readToken list
    if t.isOperator "|" then
      let s ← command list functionDepth (← readPast list)
      return s :: (← pipelineRest list fuel)
    else
      putBack t
      return []

/-- Reads a pipeline. -/
def pipeline (list : ListReader) (t : Token) : Reading Script := do
  let negated := t.isKeyword "!"
  let t ← if negated then readToken list else pure t
  let line := (← get).line
  let first ← command list functionDepth t
  let rest ← pipelineRest list (← budget)
  let s : Script := if rest.isEmpty then first else .pipeline line (first :: rest)
  return if negated then .negation s else s

/-- Reads the rest of a chain of pipelines. -/
def chainRest (list : ListReader) : Nat → Script → Reading Script
  | 0, s => return s
  | fuel + 1, s => do
    let t ← readToken list
    if t.isOperator "&&" then
      let next ← pipeline list (← readPast list)
      chainRest list fuel (.both s next)
    else if t.isOperator "||" then
      let next ← pipeline list (← readPast list)
      chainRest list fuel (.either s next)
    else
      putBack t
      return s

/-- Adds a command to those before it. -/
def joined (before : Option Script) (s : Script) : Script :=
  match before with
  | some b => .sequence b s
  | none => s

/-- Reads a list of commands; `before` are those that were read. -/
def listFrom (list : ListReader) (extent : Extent) :
    Nat → Option Script → Reading (Option Script)
  | 0, before => return before
  | fuel + 1, before => do
    let t ← if extent = .line then readToken list else readPast list
    match t with
    | .newline => return before
    | .stop =>
      readAwaited list
      putBack .stop
      return before
    | t =>
      if t.endsList && (extent = .perhaps || before.isSome) then
        putBack t
        return before
      else
        let s ← chainRest list (← budget) (← pipeline list t)
        let t ← readToken list
        let all := joined before s
        match t with
        | .stop =>
          readAwaited list
          putBack .stop
          return some all
        | .newline =>
          if extent = .line then return some all else listFrom list extent fuel (some all)
        | .operator ";" => listFrom list extent fuel (some all)
        | t =>
          if extent = .line then unexpected t none
          else
            putBack t
            return some all

/-- Reads a list of commands; the depth bounds how deep lists nest. -/
def lists : Nat → ListReader
  | 0, _ => fail "Syntax error: end of file unexpected".toList
  | depth + 1, extent => do listFrom (lists depth) extent (← budget) none

/-- How deep lists nest. -/
def listDepth : Nat := 400

/-- The commands of the next line, and what is left after it; no commands where the line is
empty. -/
def Input.nextLine (i : Input) : Except Flaw (Option Script × Input) :=
  (lists listDepth .line).run { i with pushed := none }

end LexicalModel.Command.Shell
