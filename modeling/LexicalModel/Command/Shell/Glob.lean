import LexicalModel.Command.Machine

/-!
# Patterns of file names

In a pattern `*` stands for any text, `?` for any character and brackets for one of several; a
character that was quoted stands for itself.  A pattern is matched with a text, or with the names of
files.

* `Glob` : patterns
* `Glob.matchesText` : whether a text matches
* `Glob.files` : the files whose names match
-/

namespace LexicalModel.Command.Shell

/-- A character of a pattern, and whether it was quoted. -/
abbrev Mark := Char × Bool

/-- A pattern. -/
abbrev Glob := List Mark

namespace Glob

/-- The text of a pattern. -/
def text (g : Glob) : Raw := g.map (·.1)

/-- Whether a pattern has a part that does not stand for itself. -/
def isActive (g : Glob) : Bool :=
  g.any fun (c, quoted) => !quoted && (c = '*' || c = '?' || c = '[')

/-- The name of a class after its opening, whether a character is in it, and the rest. -/
def namedClass? (c : Char) (g : Glob) : Option (Bool × Glob) :=
  match g with
  | ('[', false) :: (':', _) :: rest =>
    let name := rest.takeWhile fun (d, _) => isLetter d
    match rest.drop name.length with
    | (':', _) :: (']', _) :: rest =>
      (classTest? (String.ofList (text name))).map fun test => (test c, rest)
    | _ => none
  | _ => none

/-- Whether a character is among those of a bracket, after its opening, and the rest after it;
nothing where the bracket stays open. -/
def bracketFrom (c : Char) : Nat → (first found : Bool) → Glob → Option (Bool × Glob)
  | 0, _, _, _ => none
  | _ + 1, _, _, [] => none
  | fuel + 1, first, found, (lo, quoted) :: rest =>
    if lo = ']' && !quoted && !first then some (found, rest)
    else
      match namedClass? c ((lo, quoted) :: rest) with
      | some (isIn, rest) => bracketFrom c fuel false (found || isIn) rest
      | none =>
        match rest with
        | ('-', false) :: (hi, q) :: rest =>
          if hi = ']' && !q then some (found || c = lo || c = '-', rest)
          else bracketFrom c fuel false (found || (lo ≤ c && c ≤ hi)) rest
        | _ => bracketFrom c fuel false (found || c = lo) rest

/-- Whether a character matches a bracket after its opening, and the rest after the bracket. -/
def bracket? (c : Char) (g : Glob) : Option (Bool × Glob) :=
  match g with
  | ('!', false) :: rest =>
    (bracketFrom c (rest.length + 1) true false rest).map fun (found, rest) => (!found, rest)
  | _ => bracketFrom c (g.length + 1) true false g

/-- Whether a text matches a pattern. -/
def matchesFrom : Nat → Glob → Raw → Bool
  | 0, _, _ => false
  | _ + 1, [], r => r = []
  | fuel + 1, (p, quoted) :: g, r =>
    if p = '*' && !quoted then
      matchesFrom fuel g r ||
        match r with
        | [] => false
        | _ :: rest => matchesFrom fuel ((p, quoted) :: g) rest
    else
      match r with
      | [] => false
      | c :: rest =>
        if p = '?' && !quoted then matchesFrom fuel g rest
        else if p = '[' && !quoted then
          match bracket? c g with
          | some (isIn, g) => isIn && matchesFrom fuel g rest
          | none => c = '[' && matchesFrom fuel g rest
        else c = p && matchesFrom fuel g rest

/-- Whether a text matches a pattern. -/
def matchesText (g : Glob) (r : Raw) : Bool := matchesFrom (g.length + r.length + 1) g r

/-- A text without the shortest or longest part at its start that matches. -/
def trimFront (g : Glob) (longest : Bool) (r : Raw) : Raw :=
  let lengths := List.range (r.length + 1)
  let lengths := if longest then lengths.reverse else lengths
  match lengths.find? fun n => g.matchesText (r.take n) with
  | some n => r.drop n
  | none => r

/-- A text without the shortest or longest part at its end that matches. -/
def trimBack (g : Glob) (longest : Bool) (r : Raw) : Raw :=
  let lengths := List.range (r.length + 1)
  let lengths := if longest then lengths else lengths.reverse
  match lengths.find? fun n => g.matchesText (r.drop n) with
  | some n => r.take n
  | none => r

/-! ### Files -/

/-- The parts of a pattern between slashes, each with the slashes after it. -/
def components : Glob → List (Glob × Raw)
  | [] => []
  | (c, quoted) :: rest =>
    if c = '/' then
      match components rest with
      | ([], slashes) :: more => ([], '/' :: slashes) :: more
      | more => ([], ['/']) :: more
    else
      match components rest with
      | (part, slashes) :: more => ((c, quoted) :: part, slashes) :: more
      | [] => [([(c, quoted)], [])]

/-- Whether the name of a file matches a part of a pattern; a dot at the start of the name has to be
written. -/
def matchesName (g : Glob) (name : Raw) : Bool :=
  match name with
  | '.' :: _ => g.head?.any (fun (c, _) => c = '.') && g.matchesText name
  | _ => g.matchesText name

/-- The files whose names match parts of a pattern, in a directory with a name. -/
def filesFrom (m : Machine) (cwd : Place) : Raw → List (Glob × Raw) → List Raw
  | base, [] => if (m.find cwd base).toBool then [base] else []
  | base, (part, slashes) :: rest =>
    if part.isActive then
      match m.find cwd (if base = [] then ['.'] else base) with
      | .ok (place, .directory) =>
        let dots : List Raw := if part.head?.any (·.1 = '.') then [['.'], ['.', '.']] else []
        let names := dots ++ m.names place
        (names.filter part.matchesName).flatMap fun name =>
          if slashes = [] then filesFrom m cwd (base ++ name) rest
          else
            match m.find cwd (base ++ name) with
            | .ok (_, .directory) => filesFrom m cwd (base ++ name ++ slashes) rest
            | _ => []
      | _ => []
    else filesFrom m cwd (base ++ part.text ++ slashes) rest

/-- Whether one raw text comes before another. -/
def isBefore (a b : Raw) : Bool := !List.lex b a fun c d => c.toNat < d.toNat

/-- The files whose names match a pattern, sorted. -/
def files (m : Machine) (cwd : Place) (g : Glob) : List Raw :=
  (filesFrom m cwd [] g.components).mergeSort isBefore

end Glob

end LexicalModel.Command.Shell
