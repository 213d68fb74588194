import LexicalModel.Command.Raw

/-!
# Quoting

Two ways of showing an argument in a message or an output: between single quotes with backslashes
for what cannot be printed, and as a word that a shell reads back.

* `quoted` : between single quotes
* `shellWord` : as a word of a shell
-/

namespace LexicalModel.Command

/-- The letter that stands for a control character after a backslash. -/
def escapeLetter? : Char → Option Char
  | '\x07' => some 'a'
  | '\x08' => some 'b'
  | '\x0c' => some 'f'
  | '\n' => some 'n'
  | '\r' => some 'r'
  | '\t' => some 't'
  | '\x0b' => some 'v'
  | _ => none

/-- The three octal digits of a byte. -/
def octal (c : Char) : Raw :=
  let n := c.toNat
  [n / 64 % 8, n / 8 % 8, n % 8].map fun d => Char.ofNat (48 + d)

/-- The escape of a character that cannot be printed; nothing where it can. -/
def escape? (c : Char) : Option Raw :=
  match escapeLetter? c with
  | some l => some ['\\', l]
  | none => if isPrint c then none else some ('\\' :: octal c)

/-- Between single quotes. -/
def quoted (r : Raw) : Raw :=
  let char (c : Char) : Raw :=
    if c = '\\' || c = '\x27' then ['\\', c] else (escape? c).getD [c]
  '\x27' :: r.flatMap char ++ ['\x27']

/-- Whether a character asks for quotes wherever it stands in a word. -/
def asksForQuotes (c : Char) : Bool :=
  (escape? c).isSome || " \\?!\"$&()*;<=>[^\x60|'".toList.contains c

/-- Whether a word has to stand in quotes. -/
def wantsQuotes (r : Raw) : Bool :=
  r = [] || r = ['\x7b'] || r = ['\x7d'] || r.head? = some '#' || r.head? = some '~' ||
    r.any asksForQuotes

/-- Whether a character means the same between double quotes. -/
def isTameInDouble (c : Char) : Bool :=
  isAlnum c || "%+,-./:]_ '@".toList.contains c

/-- A word whose double quotes need no backslash; `#` and `~` are allowed in front. -/
def isTame (r : Raw) : Bool :=
  match r with
  | c :: rest => (isTameInDouble c || c = '#' || c = '~') && rest.all isTameInDouble
  | [] => true

/-- What stands between the single quotes of a word.  `escaping` says that the last character was
escaped, which happens outside of the single quotes. -/
def shellBody : Bool → Raw → Raw
  | _, [] => []
  | escaping, c :: rest =>
    match escape? c with
    | some e => (if escaping then [] else "'$'".toList) ++ e ++ shellBody true rest
    | none =>
      if c = '\x27' then "'\\''".toList ++ shellBody false rest
      else (if escaping then "''".toList else []) ++ c :: shellBody false rest

/-- A word that a shell reads back as the argument. -/
def shellWord (r : Raw) : Raw :=
  if !wantsQuotes r then r
  else if r.contains '\x27' && isTame r then '"' :: r ++ ['"']
  else '\x27' :: shellBody false r ++ ['\x27']

/-- The name of a file in a message: a word that holds a colon stands in quotes too. -/
def fileWord (r : Raw) : Raw :=
  if r.contains ':' && !wantsQuotes r then '\x27' :: r ++ ['\x27'] else shellWord r

end LexicalModel.Command
