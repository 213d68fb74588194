import LexicalModel.Command.Machine
import LexicalModel.Command.Options
import LexicalModel.Command.Quoting

/-!
# The command `tr`

Replaces, deletes or squeezes bytes.  Its operands are lists of bytes: single ones, ranges, named
classes and repetitions.

* `Item` : what such a list is made of
* `items` : the items of an operand
* `replacements` : which byte is replaced by which
-/

namespace LexicalModel.Command.Replace

/-- A part of a list of bytes. -/
inductive Item where
  /-- A byte. -/
  | char (c : Char)
  /-- The bytes from one to another. -/
  | range (lo hi : Char)
  /-- A named class. -/
  | named (name : String) (test : Char → Bool)
  /-- The bytes that are the same as one. -/
  | same (c : Char)
  /-- A byte so many times, or as often as needed. -/
  | times (c : Char) (count : Option Nat)

/-- Why operands are refused, in words. -/
abbrev Refusal := Raw

/-- A refusal of plain words. -/
def refuse {α : Type} (text : String) : Except Refusal α := .error text.toList

/-- The bytes of an operand, each with whether it was escaped. -/
def unescape : Nat → Raw → List (Char × Bool)
  | 0, _ => []
  | _ + 1, [] => []
  | _ + 1, ['\\'] => [('\\', false)]
  | fuel + 1, '\\' :: c :: rest =>
    match c with
    | '\\' => ('\\', true) :: unescape fuel rest
    | 'a' => ('\x07', true) :: unescape fuel rest
    | 'b' => ('\x08', true) :: unescape fuel rest
    | 'f' => ('\x0c', true) :: unescape fuel rest
    | 'n' => ('\n', true) :: unescape fuel rest
    | 'r' => ('\r', true) :: unescape fuel rest
    | 't' => ('\t', true) :: unescape fuel rest
    | 'v' => ('\x0b', true) :: unescape fuel rest
    | _ =>
      if isOctal c then
        let ds := ((c :: rest).take 3).takeWhile isOctal
        let ds := if 255 < numeral 8 ds then ds.take 2 else ds
        (Char.ofNat (numeral 8 ds), true) :: unescape fuel ((c :: rest).drop ds.length)
      else (c, true) :: unescape fuel rest
  | fuel + 1, c :: rest => (c, false) :: unescape fuel rest

/-- A byte as complaints show it. -/
def printable (c : Char) : Raw :=
  if c = '\\' then ['\\', '\\'] else (escape? c).getD [c]

/-- The text up to a mark and a closing bracket, and the rest after them. -/
def upTo (mark : Char) : List (Char × Bool) → Option (Raw × List (Char × Bool))
  | (a, ea) :: (b, eb) :: rest =>
    if a = mark && !ea && b = ']' && !eb then some ([], rest)
    else (upTo mark ((b, eb) :: rest)).map fun (text, rest) => (a :: text, rest)
  | _ => none

/-- Whether a star, digits and a closing bracket come next. -/
def isCount : List (Char × Bool) → Bool
  | ('*', false) :: rest =>
    let ds := rest.takeWhile fun (c, e) => isDigit c && !e
    match rest.drop ds.length with
    | (']', false) :: _ => true
    | _ => false
  | _ => false

/-- A repetition after its opening bracket, and the rest. -/
def repetition? : List (Char × Bool) → Except Refusal (Option (Item × List (Char × Bool)))
  | (c, _) :: ('*', false) :: rest =>
    match rest.idxOf? (']', false) with
    | none => .ok none
    | some n =>
      let digits := (rest.take n).map (·.1)
      let after := rest.drop (n + 1)
      if digits = [] then .ok (some (.times c none, after))
      else
        let base := if digits.head? = some '0' then 8 else 10
        let isProper (d : Char) : Bool := if base = 8 then isOctal d else isDigit d
        if digits.all isProper && numeral base digits < Nat.pow 2 64 - 1 then
          let count := numeral base digits
          .ok (some (.times c (if count = 0 then none else some count), after))
        else
          .error ("invalid repeat count ".toList ++ quoted (digits.flatMap printable) ++
            " in [c*n] construct".toList)
  | _ => .ok none

/-- The items of an operand. -/
def items : Nat → List (Char × Bool) → Except Refusal (List Item)
  | 0, _ => .ok []
  | _ + 1, [] => .ok []
  | _ + 1, [(c, _)] => .ok [.char c]
  | _ + 1, [(c, _), (d, _)] => .ok [.char c, .char d]
  | fuel + 1, (c, e) :: (d, f) :: rest => do
    let after := (d, f) :: rest
    let plain : Except Refusal (List Item) := do
      match d, f, rest with
      | '-', false, (hi, _) :: rest =>
        if hi < c then
          throw ("range-endpoints of ".toList ++ '\x27' :: printable c ++ '-' :: printable hi ++
            "' are in reverse collating sequence order".toList)
        return .range c hi :: (← items fuel rest)
      | _, _, _ => return .char c :: (← items fuel after)
    let repeated : Except Refusal (List Item) := do
      match ← repetition? after with
      | some (item, rest) => return item :: (← items fuel rest)
      | none => plain
    if c = '[' && !e then
      if (d = ':' || d = '=') && !f then
        match upTo d rest with
        | some (name, closed) =>
          if name = [] then
            if d = ':' then refuse "missing character class name '[::]'"
            else refuse "missing equivalence class character '[==]'"
          else if d = ':' then
            match classTest? (String.ofList name) with
            | some test => return .named (String.ofList name) test :: (← items fuel closed)
            | none =>
              if isCount rest then repeated
              else throw ("invalid character class ".toList ++ quoted (name.flatMap printable))
          else
            match name with
            | [s] => return .same s :: (← items fuel closed)
            | _ =>
              if isCount rest then repeated
              else throw (name.flatMap printable ++
                ": equivalence class operand must be a single character".toList)
        | none => repeated
      else repeated
    else plain

/-- The items of an operand. -/
def itemsOf (operand : Raw) : Except Refusal (List Item) :=
  let chars := unescape (operand.length + 1) operand
  items (chars.length + 1) chars

/-- The bytes of a class, in order. -/
def members (test : Char → Bool) : Raw := ((List.range 256).map Char.ofNat).filter test

/-- More repetitions of one byte than this make no difference. -/
def enough : Nat := Nat.pow 2 20

/-- The bytes of an item; a repetition without count has none. -/
def Item.chars : Item → Raw
  | .char c | .same c => [c]
  | .range lo hi => (List.range (hi.toNat + 1 - lo.toNat)).map fun k => Char.ofNat (lo.toNat + k)
  | .named _ test => members test
  | .times c count => List.replicate (min enough (count.getD 0)) c

/-- The bytes of items. -/
def expand (items : List Item) : Raw := items.flatMap Item.chars

/-- Whether an item is a class of letters of one case. -/
def Item.isCase : Item → Bool
  | .named name _ => name = "upper" || name = "lower"
  | _ => false

/-- Whether an item is a named class. -/
def Item.isNamed : Item → Bool
  | .named .. => true
  | _ => false

/-- Whether an item is a repetition without count. -/
def Item.isFill : Item → Bool
  | .times _ none => true
  | _ => false

/-- Gives the repetition without count as many bytes as the second list lacks. -/
def fill (size : Nat) (items : List Item) : List Item :=
  let missing := size - (expand items).length
  items.map fun
    | .times c none => .times c (some missing)
    | item => item

/-- What is asked for. -/
structure Task where
  /-- Bytes are deleted. -/
  deletes : Bool := false
  /-- Of the same bytes in a row only one is kept. -/
  squeezes : Bool := false
  /-- The first list is what is not in it. -/
  complements : Bool := false
  /-- The first list is cut to the length of the second. -/
  truncates : Bool := false

/-- A table of replacements: the byte at each place stands for the byte of that number. -/
abbrev Table := ByteArray

/-- Every byte stays as it is. -/
def unchanged : Table := ByteArray.mk ((List.range 256).map UInt8.ofNat).toArray

/-- Replaces one byte. -/
def Table.replace (t : Table) (c d : Char) : Table := t.set! c.toNat (byteOf d)

/-- Replaces bytes by those at the same place of another list. -/
def Table.replaceAll (t : Table) (cs ds : Raw) : Table :=
  (cs.zip ds).foldl (fun t (c, d) => t.replace c d) t

/-- A class of letters does not stand against another. -/
def misaligned {α : Type} : Except Refusal α :=
  refuse "misaligned [:upper:] and/or [:lower:] construct"

/-- Replaces the bytes of items by those of others; classes of letters stand against each other. -/
def pairUp : Nat → Table → List Item → List Item → Except Refusal Table
  | 0, t, _, _ => .ok t
  | fuel + 1, t, first, second =>
    match first, second with
    | _, [] => .ok t
    | [], target :: _ => if target.isCase then misaligned else .ok t
    | item :: items, target :: targets =>
      if target.isCase then
        if item.isCase then
          let change : Char → Char := match target with
            | .named "upper" _ => toCapital
            | _ => toSmall
          let cs := item.chars
          pairUp fuel (t.replaceAll cs (cs.map change)) items targets
        else misaligned
      else
        match item.chars, target.chars with
        | [], _ => pairUp fuel t items (target :: targets)
        | _, [] => pairUp fuel t (item :: items) targets
        | c :: cs, d :: ds =>
          let rest (chars : Raw) (more : List Item) : List Item :=
            chars.map Item.char ++ more
          pairUp fuel (t.replace c d) (rest cs items) (rest ds targets)

/-- Which byte is replaced by which. -/
def replacements (task : Task) (first second : List Item) : Except Refusal Table := do
  if second.any fun | .same _ => true | _ => false then
    refuse "[=c=] expressions may not appear in string2 when translating"
  if second.any fun item => item.isNamed && !item.isCase then
    refuse ("when translating, the only character classes that may appear in\n" ++
      "string2 are 'upper' and 'lower'")
  let whole := if task.complements then members fun c => !(expand first).contains c
    else expand first
  let second := fill whole.length second
  let targets := expand second
  if targets = [] && !task.truncates then
    refuse "when not truncating set1, string2 must be non-empty"
  let missing := whole.length - targets.length
  let padded : Except Refusal Raw :=
    if task.truncates then .ok []
    else if 0 < missing && (second.getLast?.map Item.isCase).getD false then
      refuse ("when translating with string1 longer than string2,\n" ++
        "the latter string must not end with a character class")
    else .ok (List.replicate missing (targets.getLast?.getD ' '))
  if task.complements then
    let padding ← padded
    let targets := targets ++ padding
    let agree := targets.length = whole.length && targets.all fun c => some c = targets.head?
    if first.any Item.isNamed && !agree then
      refuse ("when translating with complemented character classes,\n" ++
        "string2 must map all characters in the domain to one")
    return unchanged.replaceAll whole targets
  else
    let steps := whole.length + targets.length + 512
    let _ ← pairUp steps unchanged first second
    let padding ← padded
    pairUp (steps + missing) unchanged first (second ++ padding.map Item.char)

/-- Drops bytes of a set that follow the same byte. -/
def squeeze (set : ByteArray) (bytes : ByteArray) : ByteArray :=
  (bytes.foldl (fun (out, last) b =>
    if last = some b && set.get! b.toNat = 1 then (out, last) else (out.push b, some b))
    (ByteArray.empty, (none : Option UInt8))).1

/-- A set of bytes, with a one at the place of each. -/
def setOf (chars : Raw) : ByteArray :=
  chars.foldl (fun s c => s.set! c.toNat 1) (ByteArray.mk (Array.replicate 256 0))

/-- What is to be done with the bytes. -/
def work (task : Task) (operands : List Raw) : Except Refusal (ByteArray → ByteArray) := do
  let lists ← operands.mapM itemsOf
  let first := lists.headD []
  if first.any Item.isFill then
    refuse "the [c*] repeat construct may not appear in string1"
  let second := (lists.drop 1).headD []
  if 1 < (second.filter Item.isFill).length then
    refuse "only one [c*] repeat construct may appear in string2"
  if second.any Item.isFill && task.deletes then
    refuse "the [c*] construct may appear in string2 only when translating"
  let chosen := if task.complements then members fun c => !(expand first).contains c
    else expand first
  let drop (bytes : ByteArray) : ByteArray :=
    let set := setOf chosen
    bytes.foldl (fun out b => if set.get! b.toNat = 1 then out else out.push b) ByteArray.empty
  if task.deletes then
    if task.squeezes then
      let set := setOf (expand second)
      return fun bytes => squeeze set (drop bytes)
    else return drop
  else if lists.length = 1 then
    let set := setOf chosen
    return squeeze set
  else
    let table ← replacements task first second
    let change (bytes : ByteArray) : ByteArray :=
      bytes.foldl (fun out b => out.push (table.get! b.toNat)) ByteArray.empty
    if task.squeezes then
      let set := setOf (expand (fill chosen.length second))
      return fun bytes => squeeze set (change bytes)
    else return change

/-- The options. -/
def table : OptionTable where
  short := "cCdst".toList.map (·, .nothing)
  long := [("complement", .nothing, 'c'), ("delete", .nothing, 'd'),
    ("squeeze-repeats", .nothing, 's'), ("truncate-set1", .nothing, 't'),
    ("help", .nothing, '\x01'), ("version", .nothing, '\x02')]
  optionsFirst := true

/-- Adds an option to a task. -/
def Task.add (t : Task) : Char → Task
  | 'c' | 'C' => { t with complements := true }
  | 'd' => { t with deletes := true }
  | 's' => { t with squeezes := true }
  | 't' => { t with truncates := true }
  | _ => t

/-- What is wrong with the number of operands. -/
def miscounted? (task : Task) (operands : List Raw) : Option (Raw × String) :=
  let least := if task.deletes = task.squeezes then 2 else 1
  let most := if task.deletes && !task.squeezes then 1 else 2
  if operands.length < least then
    match operands.getLast? with
    | none => some ("missing operand".toList, "")
    | some last =>
      some ("missing operand after ".toList ++ quoted last,
        if task.squeezes then "Two strings must be given when both deleting and squeezing repeats."
        else "Two strings must be given when translating.")
  else if most < operands.length then
    some ("extra operand ".toList ++ quoted ((operands.drop most).headD []),
      if operands.length = 2 then
        "Only one string may be given when deleting without squeezing repeats."
      else "")
  else none

/-- The command. -/
def program : Program := fun p => do
  let given := table.read p.args
  let task := given.options.foldl (fun t o => t.add o.letter) ({} : Task)
  let hint := "Try '".toList ++ p.name ++ " --help' for more information.\n".toList
  match given.error, miscounted? task given.operands with
  | some e, _ =>
    p.complain e.words
    p.err hint
    return .code 1
  | none, some (words, note) =>
    p.complain words
    if note ≠ "" then p.err (note.toList ++ ['\n'])
    p.err hint
    return .code 1
  | none, none =>
    match work task given.operands with
    | .error words =>
      p.complain words
      return .code 1
    | .ok change =>
      match ← p.takeAll 0 with
      | .error e =>
        p.complain ("read error: ".toList ++ e.words.toList)
        return .code 1
      | .ok bytes =>
        p.out (change bytes)
        return .code 0

end LexicalModel.Command.Replace
