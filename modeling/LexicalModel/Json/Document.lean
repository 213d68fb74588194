import LexicalModel.Json.Number

/-!
# Documents

A document is read from left to right, and whoever reads it wants the first thing that is wrong, be
it a broken text or a value of the wrong shape.  So reading a text never fails: it gives the tree of
values as far as the text makes sense, with the break at the place where it stops doing so.

Values that nobody asks for are read more leniently than values that are used: a number may be too
large, and a surrogate may stand without its partner.  A `Break` therefore says what is wrong for
either kind of reader.

* `Node` : a value of a document, possibly broken
* `Document.parse` : the document that a text holds
-/

namespace LexicalModel.Json

/-- Why a text is no document. -/
inductive Fault where
  /-- It ends too early. -/
  | eof
  /-- It is malformed. -/
  | malformed
  deriving DecidableEq, Repr

/-- The place where a text stops making sense: what a reader finds who uses the value there, and
what one finds who only passes over it. -/
structure Break where
  /-- For a reader who uses the value. -/
  used : Fault
  /-- For a reader who passes over the value. -/
  passed : Fault
  deriving DecidableEq, Repr

/-- A break that is the same for all readers. -/
def Break.all (f : Fault) : Break := ⟨f, f⟩

/-- What follows the last character that can be read: the end of everything, or bytes that are no
text.  Such bytes are an error wherever they stand, but a string is read to its end before anybody
looks whether it is a text. -/
structure Ending where
  /-- What is wrong there outside of a string. -/
  outside : Fault
  /-- What is wrong there inside of a string. -/
  inString : Fault
  /-- How many bytes follow. -/
  bytes : Nat

/-- The end of everything. -/
def Ending.last : Ending := ⟨.eof, .eof, 0⟩

/-- A value of a document. -/
inductive Node where
  /-- The word `null`. -/
  | null
  /-- A truth value. -/
  | bool (b : Bool)
  /-- A number; nothing where it is too large. -/
  | number (n : Option Number)
  /-- A string; nothing where it has a surrogate without partner. -/
  | string (s : Option String)
  /-- The items of an array, and the break after them if there is one. -/
  | array (items : List Node) (broken : Option Break)
  /-- The members of an object, and the break after them if there is one. -/
  | object (members : List (Option String × Node)) (broken : Option Break)
  /-- No value: the text stops making sense here. -/
  | broken (b : Break)
  deriving Repr

/-! ### Characters -/

/-- White space between the parts of a document. -/
def isSpace (c : Char) : Bool := c = ' ' || c = '\n' || c = '\t' || c = '\r'

/-- Skips white space. -/
def skipSpace (cs : List Char) : List Char := cs.dropWhile isSpace

/-- The value of a decimal digit. -/
def digitValue (c : Char) : Nat := c.toNat - '0'.toNat

/-- The value of a hexadecimal digit. -/
def hexValue? (c : Char) : Option Nat :=
  if c.isDigit then some (c.toNat - '0'.toNat)
  else if 'a' ≤ c ∧ c ≤ 'f' then some (c.toNat - 'a'.toNat + 10)
  else if 'A' ≤ c ∧ c ≤ 'F' then some (c.toNat - 'A'.toNat + 10)
  else none

/-- The number that four hexadecimal digits in front of the text denote, and the rest.  Four bytes
have to be there, whatever they are. -/
def hexEscape (atEnd : Ending) (cs : List Char) : Except Fault (Nat × List Char) :=
  let ill : Fault :=
    if (cs.take 4).foldr (fun c n => c.utf8Size + n) 0 + atEnd.bytes < 4 then .eof else .malformed
  match cs with
  | a :: b :: c :: d :: rest =>
    match hexValue? a, hexValue? b, hexValue? c, hexValue? d with
    | some a, some b, some c, some d => .ok (((a * 16 + b) * 16 + c) * 16 + d, rest)
    | _, _, _, _ => .error ill
  | _ => .error ill

/-- A code unit that opens a surrogate pair. -/
def isHighSurrogate (n : Nat) : Bool := 0xD800 ≤ n && n ≤ 0xDBFF

/-- A code unit that closes a surrogate pair. -/
def isLowSurrogate (n : Nat) : Bool := 0xDC00 ≤ n && n ≤ 0xDFFF

/-- The character after a backslash that stands for a single character. -/
def simpleEscape? : Char → Option Char
  | '"' => some '"'
  | '\\' => some '\\'
  | '/' => some '/'
  | 'b' => some '\x08'
  | 'f' => some '\x0c'
  | 'n' => some '\n'
  | 'r' => some '\r'
  | 't' => some '\t'
  | _ => none

/-- The break of a string of which `text` was read, nothing where it is unusable already. -/
def stringBreak (text : Option (List Char)) (f : Fault) : Break :=
  ⟨if text.isSome then f else .malformed, f⟩

/-- Reads a string after its opening quote: the text, nothing where a surrogate has no partner, and
the rest after the closing quote.  `text` holds what was read, last character first. -/
def scanString (atEnd : Ending) :
    Nat → Option (List Char) → List Char → Except Break (Option String × List Char)
  | 0, text, _ => .error (stringBreak text atEnd.inString)
  | _ + 1, text, [] => .error (stringBreak text atEnd.inString)
  | fuel + 1, text, c :: cs =>
    if c = '"' then .ok (text.map fun t => String.ofList t.reverse, cs)
    else if c = '\\' then
      match cs with
      | [] => .error (stringBreak text atEnd.outside)
      | 'u' :: cs =>
        match hexEscape atEnd cs with
        | .error f => .error (stringBreak text f)
        | .ok (n, cs) =>
          if isLowSurrogate n then scanString atEnd fuel none cs
          else if isHighSurrogate n then
            match cs with
            | '\\' :: 'u' :: rest =>
              match hexEscape atEnd rest with
              | .error f => .error (stringBreak text f)
              | .ok (m, rest) =>
                if isLowSurrogate m then
                  let code := (n - 0xD800) * 0x400 + (m - 0xDC00) + 0x10000
                  scanString atEnd fuel (text.map (Char.ofNat code :: ·)) rest
                else scanString atEnd fuel none rest
            | [] => .error (stringBreak text atEnd.outside)
            | ['\\'] => .error (stringBreak text atEnd.outside)
            | _ => scanString atEnd fuel none cs
          else scanString atEnd fuel (text.map (Char.ofNat n :: ·)) cs
      | e :: cs =>
        match simpleEscape? e with
        | some d => scanString atEnd fuel (text.map (d :: ·)) cs
        | none => .error (stringBreak text .malformed)
    else if c.toNat < 0x20 then .error (stringBreak text .malformed)
    else scanString atEnd fuel (text.map (c :: ·)) cs

/-- Reads a string after its opening quote; `fuel` bounds its length. -/
def readString (atEnd : Ending) (fuel : Nat) (cs : List Char) :
    Except Break (Option String × List Char) :=
  scanString atEnd fuel (some []) cs

/-- The ending that bytes make which do not start with a character.  Inside of a string they count
as characters of some kind until the string ends, and then it is no text. -/
def Ending.ofBytes (bytes : List UInt8) : Ending :=
  let chars := bytes.map fun b => if b < 0x80 then Char.ofNat b.toNat else '\x7f'
  let inString : Fault :=
    match readString .last (chars.length + 1) chars with
    | .error b => b.used
    | .ok _ => .malformed
  ⟨.malformed, inString, bytes.length⟩

/-! ### Numbers -/

/-- What is wrong where a digit has to stand: the end of the text counts as such only for a reader
who uses the number. -/
def digitBreak (atEnd : Ending) (cs : List Char) : Break :=
  ⟨if cs = [] then atEnd.outside else .malformed, .malformed⟩

/-- Reads digits, at least one. -/
def readDigits (atEnd : Ending) (cs : List Char) : Except Break (List Nat × List Char) :=
  match cs.takeWhile Char.isDigit with
  | [] => .error (digitBreak atEnd cs)
  | ds => .ok (ds.map digitValue, cs.dropWhile Char.isDigit)

/-- Reads the part after a point, if one stands there. -/
def readFraction (atEnd : Ending) (cs : List Char) :
    Except Break (Option (List Nat) × List Char) :=
  match cs with
  | '.' :: cs => (readDigits atEnd cs).map fun (ds, cs) => (some ds, cs)
  | _ => .ok (none, cs)

/-- Reads an exponent, if one stands there. -/
def readExponent (atEnd : Ending) (cs : List Char) : Except Break (Option Int × List Char) :=
  match cs with
  | c :: cs' =>
    if c = 'e' || c = 'E' then
      let (negative, cs') : Bool × List Char :=
        match cs' with
        | '+' :: rest => (false, rest)
        | '-' :: rest => (true, rest)
        | _ => (false, cs')
      (readDigits atEnd cs').map fun (ds, cs) =>
        let n : Int := ofDigits ds
        (some (if negative then -n else n), cs)
    else .ok (none, cs)
  | [] => .ok (none, cs)

/-- Reads a number after its sign.  The digits before the point do not start with a zero, unless
they are just that. -/
def readNumber (atEnd : Ending) (negative : Bool) (cs : List Char) :
    Except Break (Literal × List Char) := do
  let (whole, rest) ← readDigits atEnd cs
  if 1 < whole.length ∧ whole.head? = some 0 then throw (.all .malformed)
  let (fraction, rest) ← readFraction atEnd rest
  let (exponent, rest) ← readExponent atEnd rest
  return (⟨negative, whole, fraction, exponent⟩, rest)

/-- Reads the rest of a word. -/
def readWord (atEnd : Ending) : List Char → List Char → Except Break (List Char)
  | [], cs => .ok cs
  | _ :: _, [] => .error (.all atEnd.outside)
  | w :: ws, c :: cs => if c = w then readWord atEnd ws cs else .error (.all .malformed)

/-! ### Values -/

/-- A value and the rest of the text after it; no rest where the text breaks inside the value. -/
abbrev Reading (α : Type) := α × Option (List Char)

/-- The reading of a broken value. -/
def brokenAt (b : Break) : Reading Node := (.broken b, none)

/-- A value that consists of one word. -/
def wordNode (node : Node) : Except Break (List Char) → Reading Node
  | .ok rest => (node, some rest)
  | .error b => brokenAt b

/-- The node of a number. -/
def numberNode : Except Break (Literal × List Char) → Reading Node
  | .ok (l, rest) => (.number l.value?, some rest)
  | .error b => brokenAt b

/-- The node of a string. -/
def stringNode : Except Break (Option String × List Char) → Reading Node
  | .ok (s, rest) => (.string s, some rest)
  | .error b => brokenAt b

mutual

/-- Reads a value. -/
def readNode (atEnd : Ending) : Nat → List Char → Reading Node
  | 0, _ => brokenAt (.all atEnd.outside)
  | fuel + 1, cs =>
    match skipSpace cs with
    | [] => brokenAt (.all atEnd.outside)
    | c :: rest =>
      if c = 'n' then wordNode .null (readWord atEnd ['u', 'l', 'l'] rest)
      else if c = 't' then wordNode (.bool true) (readWord atEnd ['r', 'u', 'e'] rest)
      else if c = 'f' then wordNode (.bool false) (readWord atEnd ['a', 'l', 's', 'e'] rest)
      else if c = '-' then numberNode (readNumber atEnd true rest)
      else if c.isDigit then numberNode (readNumber atEnd false (c :: rest))
      else if c = '"' then stringNode (readString atEnd fuel rest)
      else if c = '[' then
        match skipSpace rest with
        | [] => (.array [] (some (.all atEnd.outside)), none)
        | ']' :: rest => (.array [] none, some rest)
        | rest =>
          let ((items, broken), rest) := readItems atEnd fuel rest
          (.array items broken, rest)
      else if c = '\x7b' then
        match skipSpace rest with
        | [] => (.object [] (some (.all atEnd.outside)), none)
        | '\x7d' :: rest => (.object [] none, some rest)
        | rest =>
          let ((members, broken), rest) := readMembers atEnd fuel rest
          (.object members broken, rest)
      else brokenAt (.all .malformed)

/-- Reads the items of an array up to its end; an item has to come. -/
def readItems (atEnd : Ending) : Nat → List Char → Reading (List Node × Option Break)
  | 0, _ => (([], some (.all atEnd.outside)), none)
  | fuel + 1, cs =>
    match readNode atEnd fuel cs with
    | (node, none) => (([node], none), none)
    | (node, some rest) =>
      match skipSpace rest with
      | [] => (([node], some (.all atEnd.outside)), none)
      | ']' :: rest => (([node], none), some rest)
      | ',' :: rest =>
        let ((items, broken), rest) := readItems atEnd fuel rest
        ((node :: items, broken), rest)
      | _ => (([node], some (.all .malformed)), none)

/-- Reads the members of an object up to its end; a member has to come. -/
def readMembers (atEnd : Ending) :
    Nat → List Char → Reading (List (Option String × Node) × Option Break)
  | 0, _ => (([], some (.all atEnd.outside)), none)
  | fuel + 1, cs =>
    match skipSpace cs with
    | [] => (([], some (.all atEnd.outside)), none)
    | '"' :: rest =>
      match readString atEnd fuel rest with
      | .error b => (([], some b), none)
      | .ok (key, rest) =>
        match skipSpace rest with
        | [] => (([(key, .broken (.all atEnd.outside))], none), none)
        | ':' :: rest =>
          match readNode atEnd fuel rest with
          | (node, none) => (([(key, node)], none), none)
          | (node, some rest) =>
            match skipSpace rest with
            | [] => (([(key, node)], some (.all atEnd.outside)), none)
            | '\x7d' :: rest => (([(key, node)], none), some rest)
            | ',' :: rest =>
              let ((members, broken), rest) := readMembers atEnd fuel rest
              (((key, node) :: members, broken), rest)
            | _ => (([(key, node)], some (.all .malformed)), none)
        | _ => (([(key, .broken (.all .malformed))], none), none)
    | _ => (([], some (.all .malformed)), none)

end

/-- A value with what is wrong after it, if anything is. -/
structure Document where
  /-- The value. -/
  root : Node
  /-- What is wrong after it. -/
  trailing : Option Fault
  deriving Repr

namespace Document

/-- The document of a text that is followed by `atEnd`. -/
def read (atEnd : Ending) (cs : List Char) : Document :=
  match readNode atEnd (2 * cs.length + 2) cs with
  | (root, none) => ⟨root, none⟩
  | (root, some rest) =>
    if skipSpace rest = [] then ⟨root, if atEnd.bytes = 0 then none else some .malformed⟩
    else ⟨root, some .malformed⟩

/-- The document that a text holds. -/
def parse (s : String) : Document := read .last s.toList

end Document

end LexicalModel.Json
