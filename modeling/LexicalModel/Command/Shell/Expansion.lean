import LexicalModel.Command.Shell.Arithmetic
import LexicalModel.Command.Shell.Glob
import LexicalModel.Command.Shell.Session

/-!
# Expansion of words

When a command runs, its words are expanded: parameters, the output of commands and expressions take
their places, what they gave is divided into fields, and fields that are patterns of file names give
way to the files that match.

* `Stretch` : a part of an expanded word
* `Stretch.fields` : the fields of an expanded word
* `Expander.arguments`, `Expander.text`, `Expander.pattern` : words as arguments, as texts and as
  patterns
-/

namespace LexicalModel.Command.Shell

/-- A part of what a word was expanded to. -/
inductive Bit where
  /-- A character, and whether it was quoted. -/
  | char (c : Char) (quoted : Bool)
  /-- The place between two parameters. -/
  | gap
  /-- Quotes, which may have nothing in them. -/
  | quotes

/-- How a stretch is divided into fields. -/
inductive Division where
  /-- Not at all. -/
  | whole
  /-- At dividers. -/
  | fields
  /-- Between parameters. -/
  | parameters
  deriving DecidableEq

/-- A part of an expanded word that is divided in one way. -/
structure Stretch where
  /-- What it is made of. -/
  bits : List Bit
  /-- How it is divided. -/
  division : Division

/-- A text, each character of which was quoted or not. -/
def bitsOf (quoted : Bool) (r : Raw) : List Bit := r.map fun c => .char c quoted

/-- The fields of a word while they are put together. -/
structure Fields where
  /-- The fields that are complete, the last first. -/
  done : List Glob := []
  /-- The field that is being put together, backwards. -/
  current : Glob := []
  /-- It counts even if it is empty. -/
  present : Bool := false

namespace Fields

/-- Adds a character. -/
def push (f : Fields) (c : Char) (quoted : Bool) : Fields :=
  { f with current := (c, quoted) :: f.current }

/-- Ends the field. -/
def close (f : Fields) : Fields := { done := f.current.reverse :: f.done }

/-- Whether there is nothing in the field. -/
def isFresh (f : Fields) : Bool := f.current.isEmpty && !f.present

/-- Whether a part divides fields, and whether as white space does. -/
def divides? (dividers : Raw) : Bit → Option Bool
  | .char c _ =>
    if dividers.contains c then some (c = ' ' || c = '\t' || c = '\n') else none
  | .gap => some true
  | .quotes => none

/-- Drops the dividers that belong to the one before them: white space, and at most one other if
that one was white space. -/
def dropDividers (dividers : Raw) : (blank : Bool) → List Bit → List Bit
  | _, [] => []
  | blank, b :: bits =>
    match divides? dividers b with
    | none => b :: bits
    | some true => dropDividers dividers blank bits
    | some false => if blank then dropDividers dividers false bits else b :: bits

/-- Divides a stretch at dividers. -/
def divide (dividers : Raw) : Nat → List Bit → Fields → Fields
  | 0, _, f => f
  | _ + 1, [], f => f
  | fuel + 1, b :: bits, f =>
    match divides? dividers b with
    | some blank =>
      if f.isFresh && blank then divide dividers fuel bits f
      else divide dividers fuel (dropDividers dividers blank bits) f.close
    | none =>
      match b with
      | .char c quoted => divide dividers fuel bits (f.push c quoted)
      | _ => divide dividers fuel bits { f with present := true }

/-- Adds a stretch. -/
def add (dividers : Raw) (f : Fields) (s : Stretch) : Fields :=
  match s.division with
  | .fields => divide dividers (s.bits.length + 1) s.bits f
  | _ =>
    s.bits.foldl (fun f b =>
      match b with
      | .char c quoted => f.push c quoted
      | .gap => { f.close with present := true }
      | .quotes => { f with present := true }) f

end Fields

/-- The fields of an expanded word. -/
def Stretch.fields (dividers : Raw) (stretches : List Stretch) : List Glob :=
  let f := stretches.foldl (Fields.add dividers) {}
  (if f.isFresh then f else f.close).done.reverse

/-- What a parameter holds. -/
inductive Held where
  /-- Nothing. -/
  | nothing
  /-- A text. -/
  | text (r : Raw)
  /-- All parameters. -/
  | all (rs : List Raw)

/-- What a word needs of the shell: the output of commands. -/
structure Expander where
  /-- The output of commands. -/
  capture : Option Script → Sh Raw

namespace Expander

/-- The number of the shell's process. -/
def processNumber : Nat := 4242

/-- What a parameter holds. -/
def held (name : Raw) : Sh Held := do
  let s ← get
  match name with
  | ['@'] | ['*'] => return .all s.parameters
  | ['#'] => return .text (Raw.ofNat s.parameters.length)
  | ['?'] => return .text (Raw.ofNat s.status)
  | ['$'] => return .text (Raw.ofNat processNumber)
  | ['-'] => return .text ("uxsnfe".toList.filter s.options.contains)
  | c :: _ =>
    if isDigit c then
      match numeral 10 name with
      | 0 => return .text s.name
      | n + 1 =>
        match s.parameters[n]? with
        | some r => return .text r
        | none => return .nothing
    else
      match ← Sh.value? name with
      | some r => return .text r
      | none => return .nothing
  | [] => return .nothing

/-- What stands between parameters that become one text. -/
def joiner : Sh Raw := do
  match ← Sh.value? "IFS".toList with
  | some r => return r.take 1
  | none => return [' ']

/-- What a parameter holds as one text. -/
def joinedText : Held → Sh Raw
  | .nothing => return []
  | .text r => return r
  | .all rs => do return Raw.join (← joiner) rs

/-- The stretches of what a parameter holds.  `splits` says that fields are made. -/
def stretchesOf (name : Raw) (quoted splits : Bool) (h : Held) : Sh (List Stretch) := do
  let division : Division := if quoted then .whole else .fields
  match h with
  | .nothing => return []
  | .text r => return [⟨bitsOf quoted r, division⟩]
  | .all rs =>
    if splits && (!quoted || name = ['@']) then
      let bits := rs.map fun r => bitsOf quoted r
      let bits := (bits.intersperse [.gap]).flatten
      if quoted then
        return if rs.isEmpty then [] else [⟨.quotes :: bits, .parameters⟩]
      else return [⟨bits, .fields⟩]
    else return [⟨bitsOf quoted (Raw.join (← joiner) rs), division⟩]

/-- A text without quoting. -/
def textOf (stretches : List Stretch) : Raw :=
  stretches.flatMap fun s => s.bits.filterMap fun
    | .char c _ => some c
    | .gap => some ' '
    | .quotes => none

/-- A pattern. -/
def globOf (stretches : List Stretch) : Glob :=
  stretches.flatMap fun s => s.bits.filterMap fun
    | .char c quoted => some (c, quoted)
    | .gap => some (' ', true)
    | .quotes => none

/-- Whether what a parameter holds counts; with a colon an empty text does not. -/
def counts (colon : Bool) : Held → Sh Bool
  | .nothing => return false
  | h => do return !colon || (← joinedText h) ≠ []

/-- The words for a parameter that is not set. -/
def unsetWords (colon : Bool) : Raw :=
  (if colon then "parameter not set or null" else "parameter not set").toList

/-- Expands a word.  `splits` says that fields are made, `inner` that the word is part of a
parameter's use, so that its own text is divided too. -/
def stretches (x : Expander) : Nat → (splits inner : Bool) → Word → Sh (List Stretch)
  | 0, _, _, _ => return []
  | _ + 1, _, _, [] => return []
  | fuel + 1, splits, inner, piece :: rest => do
    let first ← match piece with
      | .text quoted r =>
        if quoted then pure [⟨.quotes :: bitsOf true r, .whole⟩]
        else pure [⟨bitsOf false r, if inner && splits then Division.fields else .whole⟩]
      | .output quoted body => do
        let r ← x.capture body
        pure [⟨bitsOf quoted r, if quoted then Division.whole else .fields⟩]
      | .value quoted body => do
        let r := textOf (← x.stretches fuel false false body)
        let s ← get
        let lookUp (name : Raw) : Option Raw := (s.bindings.lookup name).bind (·.value)
        match Arithmetic.evaluate lookUp r with
        | .error words => Sh.fault words
        | .ok (n, assigned) =>
          assigned.forM fun (name, n) => Sh.assign name (Raw.ofInt n)
          pure [⟨bitsOf quoted (Raw.ofInt n), if quoted then Division.whole else .fields⟩]
      | .parameter quoted name use => do
        let h ← held name
        let unset : Bool := match h with
          | .nothing => true
          | _ => false
        let strict ← Sh.isSet 'u'
        match use with
        | .bad => Sh.fault "Bad substitution".toList
        | .plain =>
          if unset && strict then Sh.fault (name ++ ": ".toList ++ unsetWords false)
          stretchesOf name quoted splits h
        | .length =>
          if unset && strict then Sh.fault (name ++ ": ".toList ++ unsetWords false)
          let r ← joinedText h
          stretchesOf name quoted splits (.text (Raw.ofNat r.length))
        | .instead '-' colon word =>
          if ← counts colon h then stretchesOf name quoted splits h
          else x.stretches fuel splits true word
        | .instead '+' colon word =>
          if ← counts colon h then x.stretches fuel splits true word else pure []
        | .instead '=' colon word =>
          if ← counts colon h then stretchesOf name quoted splits h
          else
            if !isName name then Sh.fault (name ++ ": bad variable name".toList)
            let r := textOf (← x.stretches fuel false true word)
            Sh.assign name r
            stretchesOf name quoted splits (.text r)
        | .instead _ colon word =>
          if ← counts colon h then stretchesOf name quoted splits h
          else
            let r := textOf (← x.stretches fuel false true word)
            Sh.fault (name ++ ": ".toList ++ if word.isEmpty then unsetWords colon else r)
        | .trim front longest word =>
          if unset && strict then Sh.fault (name ++ ": ".toList ++ unsetWords false)
          let g := globOf (← x.stretches fuel false false word)
          let cut (r : Raw) : Raw := if front then g.trimFront longest r else g.trimBack longest r
          match h with
          | .nothing => pure []
          | .text r => stretchesOf name quoted splits (.text (cut r))
          | .all rs => stretchesOf name quoted splits (.all (rs.map cut))
    return first ++ (← x.stretches fuel splits inner rest)

/-- How many pieces a word may have, with those inside of them. -/
def wordSize : Nat := 1000000

/-- A word with a tilde at its start replaced by the home directory. -/
def withHome (w : Word) : Sh Word := do
  match w with
  | .text false ('~' :: r) :: rest =>
    let alone := (r = [] && rest.isEmpty) || r.head? = some '/'
    match ← Sh.value? "HOME".toList with
    | some home => return if alone then .text true home :: .text false r :: rest else w
    | none => return w
  | w => return w

/-- The arguments that a word becomes. -/
def arguments (x : Expander) (w : Word) : Sh (List Raw) := do
  let w ← withHome w
  let fields := Stretch.fields (← Sh.dividers) (← x.stretches wordSize true false w)
  let literal ← Sh.isSet 'f'
  let m ← Sh.machine
  let cwd := (← get).cwd
  return fields.flatMap fun g =>
    if literal || !g.isActive then [g.text]
    else
      match g.files m cwd with
      | [] => [g.text]
      | names => names

/-- The arguments that words become. -/
def allArguments (x : Expander) : List Word → Sh (List Raw)
  | [] => return []
  | w :: ws => do
    let first ← x.arguments w
    return first ++ (← x.allArguments ws)

/-- A word as one text. -/
def text (x : Expander) (w : Word) : Sh Raw := do
  return textOf (← x.stretches wordSize false false (← withHome w))

/-- A word as a pattern. -/
def pattern (x : Expander) (w : Word) : Sh Glob := do
  return globOf (← x.stretches wordSize false false (← withHome w))

end Expander

end LexicalModel.Command.Shell
