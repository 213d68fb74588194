import LexicalModel.Failure

/-!
# Model identifiers

A model is called `author.bcp47.uniq`: who made it, for which language, and a word that tells it
from the author's other models for that language.
-/

namespace LexicalModel

/-- A character that a segment of an identifier may start with. -/
def isSegmentStart (c : Char) : Bool := ('a' ≤ c && c ≤ 'z') || c = '_'

/-- A character of a segment of an identifier. -/
def isSegmentChar (c : Char) : Bool := isSegmentStart c || ('0' ≤ c && c ≤ '9')

/-- A segment of an identifier: small letters, digits and underscores, no digit first. -/
def isSegment : List Char → Bool
  | [] => false
  | c :: cs => isSegmentStart c && cs.all isSegmentChar

/-- The identifier of a model. -/
structure Identifier where
  /-- Who made the model. -/
  author : String
  /-- The language it is for. -/
  bcp47 : String
  /-- What tells it from the author's other models for the language. -/
  uniq : String
  author_isSegment : isSegment author.toList = true
  bcp47_isSegment : isSegment bcp47.toList = true
  uniq_isSegment : isSegment uniq.toList = true
  deriving DecidableEq, Repr

namespace Identifier

/-- The identifier as a text. -/
def text (id : Identifier) : String := id.author ++ "." ++ id.bcp47 ++ "." ++ id.uniq

/-- The identifier that a text is. -/
def parse? (raw : String) : Option Identifier :=
  match raw.toList.splitOnP (· = '.') with
  | [a, b, c] =>
    if h : isSegment a = true ∧ isSegment b = true ∧ isSegment c = true then
      some ⟨String.ofList a, String.ofList b, String.ofList c,
        by simpa using h.1, by simpa using h.2.1, by simpa using h.2.2⟩
    else none
  | _ => none

/-- The identifier that a text has to be. -/
def parse (raw : String) : Result Identifier :=
  match parse? raw with
  | some id => .ok id
  | none => Result.fail (.invalidIdentifier raw)

end Identifier

end LexicalModel
