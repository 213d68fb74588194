import LexicalModel.Text.Blank
import LexicalModel.Text.WordChar

/-!
# Markup

Package projects are written in a small markup: elements with attributes, texts with references to
characters, and comments.  Only the elements that are asked for are looked for; an element ends at
the first closing tag of its name.

* `Markup.stripComments` : the text without comments
* `Markup.elements` : the elements of a name, in order
* `Markup.attribute?` : the value of an attribute
* `Markup.unescape` : a text with its character references resolved
-/

namespace LexicalModel.Markup

/-- An element: what stands in its opening tag after the name, and what stands between the tags. -/
structure Element where
  /-- The rest of the opening tag. -/
  attributes : List Char
  /-- The contents. -/
  inner : List Char
  deriving DecidableEq, Repr

/-- Where a pattern stands first. -/
def indexOf? (pattern : List Char) : List Char → Option Nat
  | [] => if pattern = [] then some 0 else none
  | c :: cs =>
    if pattern.isPrefixOf (c :: cs) then some 0 else (indexOf? pattern cs).map (· + 1)

/-! ### Comments -/

/-- The opening of a comment. -/
def commentOpening : List Char := ['<', '!', '-', '-']

/-- The closing of a comment. -/
def commentClosing : List Char := ['-', '-', '>']

/-- The length of the comment in front of the text, if a closed one stands there. -/
def commentLength? (cs : List Char) : Option Nat :=
  match commentOpening.isPrefixOf? cs with
  | some rest => (indexOf? commentClosing rest).map (· + 7)
  | none => none

/-- Drops the comments after `skip` characters that belong to one. -/
def stripFrom (skip : Nat) : List Char → List Char
  | [] => []
  | c :: cs =>
    match skip with
    | skip + 1 => stripFrom skip cs
    | 0 =>
      match commentLength? (c :: cs) with
      | some n => stripFrom (n - 1) cs
      | none => c :: stripFrom 0 cs

/-- The text without comments. -/
def stripComments (cs : List Char) : List Char := stripFrom 0 cs

/-! ### Elements -/

/-- The length of the closing tag in front of the text, if it stands there. -/
def closingLength? (tag : List Char) (cs : List Char) : Option Nat :=
  match ('<' :: '/' :: tag).isPrefixOf? cs with
  | some rest =>
    let space := rest.takeWhile Text.isBlank
    match rest.drop space.length with
    | '>' :: _ => some (tag.length + space.length + 3)
    | _ => none
  | none => none

/-- The text up to the first closing tag, and the length of that tag. -/
def untilClosing? (tag : List Char) : List Char → Option (List Char × Nat)
  | [] => none
  | c :: cs =>
    match closingLength? tag (c :: cs) with
    | some n => some ([], n)
    | none => (untilClosing? tag cs).map fun (inner, n) => (c :: inner, n)

/-- What follows a tag name in an opening tag, up to its closing bracket. -/
inductive Opening where
  /-- The tag opens an element with the given attributes. -/
  | opened (attributes : List Char)
  /-- The tag is an element of its own. -/
  | closed (attributes : List Char)
  /-- The tag has another name. -/
  | other

/-- Reads what follows a tag name. -/
def readOpening (segment : List Char) : Opening :=
  match segment with
  | [] => .opened []
  | c :: _ =>
    if segment = ['/'] then .closed []
    else if Text.isBlank c then
      if segment.getLast? = some '/' then .closed segment.dropLast else .opened segment
    else .other

/-- The element in front of the text and its length, if one of the given name stands there. -/
def elementAt? (tag : List Char) (cs : List Char) : Option (Element × Nat) :=
  match ('<' :: tag).isPrefixOf? cs with
  | none => none
  | some rest =>
    let segment := rest.takeWhile (· ≠ '>')
    let length := tag.length + segment.length + 2
    match rest.drop segment.length with
    | [] => none
    | _ :: body =>
      match readOpening segment with
      | .closed attributes => some (⟨attributes, []⟩, length)
      | .opened attributes =>
        (untilClosing? tag body).map fun (inner, n) =>
          (⟨attributes, inner⟩, length + inner.length + n)
      | .other => none

/-- The elements of a name after `skip` characters that belong to one. -/
def elementsFrom (tag : List Char) (skip : Nat) : List Char → List Element
  | [] => []
  | c :: cs =>
    match skip with
    | skip + 1 => elementsFrom tag skip cs
    | 0 =>
      match elementAt? tag (c :: cs) with
      | some (e, n) => e :: elementsFrom tag (n - 1) cs
      | none => elementsFrom tag 0 cs

/-- The elements of a name, in order; none inside another of the same name. -/
def elements (tag : String) (cs : List Char) : List Element := elementsFrom tag.toList 0 cs

/-- The first element of a name. -/
def element? (tag : String) (cs : List Char) : Option Element := (elements tag cs).head?

/-! ### Character references -/

/-- The characters that have a name. -/
def namedCharacters : List (List Char × Char) :=
  [(['l', 't'], '<'), (['g', 't'], '>'), (['q', 'u', 'o', 't'], '"'),
   (['a', 'p', 'o', 's'], '\x27'), (['a', 'm', 'p'], '&')]

/-- The character of a code point, if there is one. -/
def scalar? (n : Nat) : Option Char := if n.isValidChar then some (Char.ofNat n) else none

/-- The value of a hexadecimal digit. -/
def hexValue (c : Char) : Nat :=
  if c.isDigit then c.toNat - '0'.toNat
  else if 'a' ≤ c then c.toNat - 'a'.toNat + 10
  else c.toNat - 'A'.toNat + 10

/-- A hexadecimal digit. -/
def isHexDigit (c : Char) : Bool :=
  c.isDigit || ('a' ≤ c && c ≤ 'f') || ('A' ≤ c && c ≤ 'F')

/-- The number that digits of a base denote. -/
def ofDigits (base : Nat) (digit : Char → Nat) (cs : List Char) : Nat :=
  cs.foldl (fun n c => n * base + digit c) 0

/-- The character that a number in front of the text denotes and the length of the number with the
semicolon after it. -/
def codeReference? (base : Nat) (isDigit : Char → Bool) (cs : List Char) : Option (Char × Nat) :=
  let digits := cs.takeWhile isDigit
  if digits = [] then none
  else
    match cs.drop digits.length with
    | ';' :: _ => (scalar? (ofDigits base hexValue digits)).map fun c => (c, digits.length + 1)
    | _ => none

/-- The character that a reference denotes, and its length without the ampersand. -/
def reference? (cs : List Char) : Option (Char × Nat) :=
  match cs with
  | '#' :: 'x' :: rest => (codeReference? 16 isHexDigit rest).map fun (c, n) => (c, n + 2)
  | '#' :: rest => (codeReference? 10 Char.isDigit rest).map fun (c, n) => (c, n + 1)
  | _ =>
    (namedCharacters.find? fun (name, _) => (name ++ [';']).isPrefixOf cs).map
      fun (name, c) => (c, name.length + 1)

/-- Resolves the references after `skip` characters that belong to one. -/
def unescapeFrom (skip : Nat) : List Char → List Char
  | [] => []
  | c :: cs =>
    match skip with
    | skip + 1 => unescapeFrom skip cs
    | 0 =>
      if c = '&' then
        match reference? cs with
        | some (d, n) => d :: unescapeFrom n cs
        | none => c :: unescapeFrom 0 cs
      else c :: unescapeFrom 0 cs

/-- The text with its character references resolved, each once; what is no reference stays. -/
def unescape (cs : List Char) : List Char := unescapeFrom 0 cs

/-! ### Attributes -/

/-- The value of the attribute in front of the text, if it is the one of the given name. -/
def attributeAt? (name : List Char) (cs : List Char) : Option (List Char) :=
  match name.isPrefixOf? cs with
  | none => none
  | some rest =>
    match rest.dropWhile Text.isBlank with
    | '=' :: rest =>
      match rest.dropWhile Text.isBlank with
      | '"' :: rest => if '"' ∈ rest then some (rest.takeWhile (· ≠ '"')) else none
      | _ => none
    | _ => none

/-- The value of the first attribute of a name, given whether a word character stands before. -/
def attributeFrom? (name : List Char) (inWord : Bool) : List Char → Option (List Char)
  | [] => none
  | c :: cs =>
    match if inWord then none else attributeAt? name (c :: cs) with
    | some value => some value
    | none => attributeFrom? name (Text.isWordChar c) cs

/-- The value of an attribute with its character references resolved. -/
def attribute? (name : String) (attributes : List Char) : Option String :=
  (attributeFrom? name.toList false attributes).map fun value => String.ofList (unescape value)

/-- The text of an element: trimmed, then its character references resolved. -/
def Element.text (e : Element) : String := String.ofList (unescape (Text.trimChars e.inner))

/-- The text of the first element of a name, if it has any. -/
def childText? (tag : String) (cs : List Char) : Option String :=
  ((element? tag cs).map Element.text).filter (· ≠ "")

end LexicalModel.Markup
