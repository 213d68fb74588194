import LexicalModel.Command.Machine

/-!
# The command `test`

Looks at texts, numbers and files.  How its arguments are read hangs on their number: with three of
them the one in the middle is an operator if it can be.

* `Test.run` : whether a condition holds
-/

namespace LexicalModel.Command.Shell.Test

/-- The kinds of operators. -/
inductive Kind where
  /-- Before an operand. -/
  | unary
  /-- Between operands. -/
  | binary
  /-- Negation. -/
  | negation
  /-- Between conditions. -/
  | connective
  /-- Parentheses. -/
  | parenthesis
  deriving DecidableEq

/-- The operators. -/
def kind? (r : Raw) : Option Kind :=
  match String.ofList r with
  | "!" => some .negation
  | "(" | ")" => some .parenthesis
  | "-a" | "-o" => some .connective
  | "=" | "!=" | "<" | ">" | "-eq" | "-ne" | "-gt" | "-ge" | "-lt" | "-le" => some .binary
  | "-r" | "-w" | "-x" | "-e" | "-f" | "-d" | "-s" | "-z" | "-n" => some .unary
  | _ => none

/-- What the condition is about. -/
structure World where
  /-- The machine. -/
  machine : Machine
  /-- The working directory. -/
  cwd : Place

/-- The number that an operand denotes. -/
def numberOf (r : Raw) : Except Raw Int :=
  let cs := r.dropWhile isSpace
  let (negative, cs) : Bool × Raw := match cs with
    | '-' :: rest => (true, rest)
    | '+' :: rest => (false, rest)
    | _ => (false, cs)
  let ds := cs.takeWhile isDigit
  let n := numeral 10 ds
  if ds = [] || !(cs.drop ds.length).all isSpace || Nat.pow 2 63 ≤ n then
    .error ("Illegal number: ".toList ++ r)
  else .ok (if negative then -n else n)

/-- Whether a file is as an operator says. -/
def World.file (w : World) (operator name : Raw) : Bool :=
  match w.machine.find w.cwd name with
  | .error _ => false
  | .ok (_, entry) =>
    match String.ofList operator, entry with
    | "-f", .file _ => true
    | "-f", .special (.program _) => true
    | "-f", _ => false
    | "-d", .directory => true
    | "-d", _ => false
    | "-x", .file _ => false
    | "-x", .special (.program _) => true
    | "-x", .special _ => false
    | "-s", .file bytes => bytes.size ≠ 0
    | "-s", .special (.program _) => true
    | "-s", .special _ => false
    | _, _ => true

/-- Applies an operator before an operand. -/
def World.unary (w : World) (operator operand : Raw) : Except Raw Bool :=
  match String.ofList operator with
  | "-z" => .ok (operand = [])
  | "-n" => .ok (operand ≠ [])
  | _ => .ok (w.file operator operand)

/-- Applies an operator between operands. -/
def applyBinary (operator a b : Raw) : Except Raw Bool := do
  let numbers (test : Int → Int → Bool) : Except Raw Bool := do
    return test (← numberOf a) (← numberOf b)
  match String.ofList operator with
  | "=" => return a = b
  | "!=" => return a ≠ b
  | "<" => return decide (a < b)
  | ">" => return decide (b < a)
  | "-eq" => numbers fun x y => x = y
  | "-ne" => numbers fun x y => x ≠ y
  | "-gt" => numbers fun x y => y < x
  | "-ge" => numbers fun x y => y ≤ x
  | "-lt" => numbers fun x y => x < y
  | _ => numbers fun x y => x ≤ y

/-- What an argument is: an operator, an operand, or nothing. -/
inductive Role where
  /-- There is no argument. -/
  | nothing
  /-- An operand. -/
  | operand
  /-- An operator. -/
  | operator (k : Kind) (text : Raw)
  deriving DecidableEq

/-- What the first argument is, in view of those after it. -/
def role (args : List Raw) : Role :=
  match args with
  | [] => .nothing
  | r :: rest =>
    match kind? r with
    | none => .operand
    | some k =>
      let isOperand : Bool := match k, rest with
        | .unary, [] => true
        | .unary, [_] => false
        | .unary, next :: _ :: _ => kind? next = some .binary
        | .parenthesis, [] => r = ['(']
        | _, _ => false
      if isOperand then .operand else .operator k r

/-- The levels of conditions. -/
inductive Level where
  /-- Disjunctions. -/
  | either
  /-- Conjunctions. -/
  | both
  /-- Negations. -/
  | negation
  /-- Single conditions. -/
  | primary
  deriving DecidableEq

/-- Evaluates a condition of a level that starts with the first argument, which has the given role.
What is left starts with the last argument that was used. -/
def World.eval (w : World) : Nat → Level → Role → List Raw → Except Raw (Bool × List Raw)
  | 0, _, _, args => .ok (false, args)
  | fuel + 1, .either, r, args => do
    let (a, rest) ← w.eval fuel .both r args
    match role (rest.drop 1) with
    | .operator .connective ['-', 'o'] =>
      let after := rest.drop 2
      let (b, rest) ← w.eval fuel .either (role after) after
      return (a || b, rest)
    | _ => return (a, rest)
  | fuel + 1, .both, r, args => do
    let (a, rest) ← w.eval fuel .negation r args
    match role (rest.drop 1) with
    | .operator .connective ['-', 'a'] =>
      let after := rest.drop 2
      let (b, rest) ← w.eval fuel .both (role after) after
      return (a && b, rest)
    | _ => return (a, rest)
  | fuel + 1, .negation, r, args =>
    match r with
    | .operator .negation _ =>
      let after := args.drop 1
      match role after with
      | .nothing => (w.eval fuel .negation .nothing args).map fun (a, rest) => (!a, rest)
      | r => (w.eval fuel .negation r after).map fun (a, rest) => (!a, rest)
    | r => w.eval fuel .primary r args
  | fuel + 1, .primary, r, args => do
    match r with
    | .nothing => return (false, args)
    | .operator .parenthesis ['('] =>
      let after := args.drop 1
      match role after with
      | .operator .parenthesis [')'] => return (false, after)
      | r =>
        let (a, rest) ← w.eval fuel .either r after
        match role (rest.drop 1) with
        | .operator .parenthesis [')'] => return (a, rest.drop 1)
        | _ => throw "closing paren expected".toList
    | .operator .unary operator =>
      match args.drop 1 with
      | [] => throw (operator ++ ": argument expected".toList)
      | operand :: rest => return (← w.unary operator operand, operand :: rest)
    | _ =>
      match role (args.drop 1) with
      | .operator .binary operator =>
        match args.drop 2 with
        | [] => throw (operator ++ ": argument expected".toList)
        | b :: rest => return (← applyBinary operator (args.headD []) b, b :: rest)
      | _ => return (args.headD [] ≠ [], args)

/-- Evaluates a condition that starts with a role, and asks that nothing is left over. -/
def World.whole (w : World) (r : Role) (args : List Raw) : Except Raw Bool := do
  let (a, rest) ← w.eval (4 * args.length + 8) .either r args
  match rest with
  | last :: _ :: _ => throw (last ++ ": unexpected operator".toList)
  | _ => return a

/-- Whether a condition holds; `negated` after an exclamation mark in front of it. -/
def World.condition (w : World) : (negated : Bool) → List Raw → Except Raw Bool
  | negated, [] => .ok negated
  | negated, first :: rest => do
    let args := first :: rest
    let isBinary := args.length = 3 && (rest.head?.bind kind?) = some .binary
    if isBinary then return (← w.whole .operand args) != negated
    else if args.length = 3 || args.length = 4 then
      if first = ['('] && rest.getLast? = some [')'] then
        let inner := rest.dropLast
        return (← w.whole (role inner) inner) != negated
      else if first = ['!'] then w.condition true rest
      else return (← w.whole (role args) args) != negated
    else return (← w.whole (role args) args) != negated

/-- Whether a condition holds. -/
def run (w : World) (args : List Raw) : Except Raw Bool := w.condition false args

end LexicalModel.Command.Shell.Test
