import LexicalModel.Json.Number

/-!
# Values and their text

A value as the library keeps it, and its two written forms.  The compact form has no white space;
the pretty form has one item or member a line, two blanks deeper at each level.  Strings escape
quotes, backslashes and control characters only.
-/

namespace LexicalModel.Json

/-- A value. -/
inductive Value where
  /-- The word `null`. -/
  | null
  /-- A truth value. -/
  | bool (b : Bool)
  /-- A number. -/
  | number (n : Number)
  /-- A string. -/
  | string (s : String)
  /-- An array. -/
  | array (items : List Value)
  /-- An object, its members in the order in which they are written. -/
  | object (members : List (String × Value))
  deriving Repr, Inhabited

namespace Value

/-- A whole number as a value. -/
def nat (n : Nat) : Value := .number (.int n)

/-- A list of strings as a value. -/
def strings (ss : List String) : Value := .array (ss.map .string)

end Value

/-! ### Strings -/

/-- A digit below sixteen in hexadecimal. -/
def hexChar (n : Nat) : Char :=
  if n < 10 then Char.ofNat ('0'.toNat + n) else Char.ofNat ('a'.toNat + (n - 10))

/-- A character as it stands in a written string. -/
def escapeChar (c : Char) : List Char :=
  if c = '"' then ['\\', '"']
  else if c = '\\' then ['\\', '\\']
  else if c = '\x08' then ['\\', 'b']
  else if c = '\x0c' then ['\\', 'f']
  else if c = '\n' then ['\\', 'n']
  else if c = '\r' then ['\\', 'r']
  else if c = '\t' then ['\\', 't']
  else if c.toNat < 0x20 then
    ['\\', 'u', '0', '0', hexChar (c.toNat / 16), hexChar (c.toNat % 16)]
  else [c]

/-- A written string. -/
def stringChars (s : String) : List Char := '"' :: s.toList.flatMap escapeChar ++ ['"']

/-! ### Compact form -/

/-- Texts with a comma between them. -/
def commaSep : List (List Char) → List Char
  | [] => []
  | [t] => t
  | t :: ts => t ++ ',' :: commaSep ts

namespace Value

mutual

/-- The compact form. -/
def compactChars : Value → List Char
  | .null => ['n', 'u', 'l', 'l']
  | .bool true => ['t', 'r', 'u', 'e']
  | .bool false => ['f', 'a', 'l', 's', 'e']
  | .number n => n.chars
  | .string s => stringChars s
  | .array items => '[' :: commaSep (compactItems items) ++ [']']
  | .object members => '\x7b' :: commaSep (compactMembers members) ++ ['\x7d']

/-- The compact forms of items. -/
def compactItems : List Value → List (List Char)
  | [] => []
  | v :: vs => v.compactChars :: compactItems vs

/-- The compact forms of members. -/
def compactMembers : List (String × Value) → List (List Char)
  | [] => []
  | (k, v) :: ms => (stringChars k ++ ':' :: v.compactChars) :: compactMembers ms

end

/-- The compact form as a text. -/
def compact (v : Value) : String := String.ofList v.compactChars

/-! ### Pretty form -/

/-- A new line at the given depth. -/
def newline (depth : Nat) : List Char := '\n' :: List.replicate (2 * depth) ' '

/-- Texts on lines of their own one level below `depth`, between an opening and a closing
bracket. -/
def block (depth : Nat) (opening closing : Char) : List (List Char) → List Char
  | [] => [opening, closing]
  | ts =>
    opening :: commaSep (ts.map (newline (depth + 1) ++ ·)) ++ newline depth ++ [closing]

mutual

/-- The pretty form at the given depth. -/
def prettyChars (depth : Nat) : Value → List Char
  | .array items => block depth '[' ']' (prettyItems (depth + 1) items)
  | .object members => block depth '\x7b' '\x7d' (prettyMembers (depth + 1) members)
  | .null => ['n', 'u', 'l', 'l']
  | .bool true => ['t', 'r', 'u', 'e']
  | .bool false => ['f', 'a', 'l', 's', 'e']
  | .number n => n.chars
  | .string s => stringChars s

/-- The pretty forms of items. -/
def prettyItems (depth : Nat) : List Value → List (List Char)
  | [] => []
  | v :: vs => v.prettyChars depth :: prettyItems depth vs

/-- The pretty forms of members. -/
def prettyMembers (depth : Nat) : List (String × Value) → List (List Char)
  | [] => []
  | (k, v) :: ms =>
    (stringChars k ++ ':' :: ' ' :: v.prettyChars depth) :: prettyMembers depth ms

end

/-- The pretty form as a text. -/
def pretty (v : Value) : String := String.ofList (v.prettyChars 0)

end Value

/-! ### Sorted members -/

/-- Puts a member in its place among members that are sorted by key; it replaces one of the same
key. -/
def insertMember (key : String) (v : Value) : List (String × Value) → List (String × Value)
  | [] => [(key, v)]
  | (k, w) :: ms =>
    if key < k then (key, v) :: (k, w) :: ms
    else if key = k then (key, v) :: ms
    else (k, w) :: insertMember key v ms

/-- The members sorted by key, the last one of each key. -/
def sortMembers (ms : List (String × Value)) : List (String × Value) :=
  ms.foldl (fun acc m => insertMember m.1 m.2 acc) []

end LexicalModel.Json
