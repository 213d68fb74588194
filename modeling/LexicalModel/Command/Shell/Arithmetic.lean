import LexicalModel.Command.Raw

/-!
# Expressions of the shell

Expressions over whole numbers of 64 bits, with the operators of C.  They may assign to variables.

* `Arithmetic.evaluate` : the value of an expression, and what it assigns
-/

namespace LexicalModel.Command.Shell.Arithmetic

/-- A part of an expression. -/
inductive Lexeme where
  /-- The end. -/
  | stop
  /-- A number. -/
  | number (n : Int)
  /-- A variable. -/
  | name (r : Raw)
  /-- An operator. -/
  | operator (text : String)
  deriving DecidableEq

/-- The operators, the longer ones first. -/
def operators : List String :=
  ["<<=", ">>=", "<<", ">>", "<=", ">=", "==", "!=", "&&", "||", "+=", "-=", "*=", "/=", "%=", "&=",
    "|=", "^=", "+", "-", "*", "/", "%", "<", ">", "=", "!", "~", "&", "|", "^", "(", ")", "?", ":"]

/-- A number within 64 bits. -/
def wrap (n : Int) : Int := Int.bmod n (Nat.pow 2 64)

/-- The number that a text starts with, which may be hexadecimal or octal, and the rest; numbers out
of range become the largest. -/
def number (cs : Raw) : Int × Raw :=
  let bounded (n : Nat) : Int := min (n : Int) ((Nat.pow 2 63 : Int) - 1)
  match cs with
  | '0' :: x :: rest =>
    let hex := rest.takeWhile isHex
    if (x = 'x' || x = 'X') && hex ≠ [] then (bounded (numeral 16 hex), rest.drop hex.length)
    else
      let ds := cs.takeWhile isOctal
      (bounded (numeral 8 ds), cs.drop ds.length)
  | _ =>
    let ds := cs.takeWhile isDigit
    (bounded (numeral 10 ds), cs.drop ds.length)

/-- The next part of an expression, and the rest. -/
def lexeme (cs : Raw) : Option (Lexeme × Raw) :=
  let cs := cs.dropWhile isSpace
  match cs with
  | [] => some (.stop, [])
  | c :: _ =>
    if isDigit c then
      let (n, rest) := number cs
      some (.number n, rest)
    else if isLetter c || c = '_' then
      let name := cs.takeWhile isWord
      some (.name name, cs.drop name.length)
    else
      match operators.find? fun o => o.toList.isPrefixOf cs with
      | some o => some (.operator o, cs.drop o.length)
      | none => none

/-- The number that a variable holds; an error where it holds none. -/
def valueOf (text : Raw) : Except Raw Int :=
  let cs := text.dropWhile isSpace
  let (negative, ds) : Bool × Raw := match cs with
    | '-' :: rest => (true, rest)
    | '+' :: rest => (false, rest)
    | _ => (false, cs)
  let (n, rest) := number ds
  let started := rest.length < ds.length
  let rest := if started then rest else text
  if rest.all isSpace then .ok (if negative && started then -n else if started then n else 0)
  else .error ("Illegal number: ".toList ++ text)

/-- The state of an evaluation. -/
structure State where
  /-- What is left of the expression. -/
  rest : Raw
  /-- The variables that were assigned to, the newest first. -/
  assigned : List (Raw × Int) := []

/-- A part of an evaluation. -/
abbrev Work := StateT State (Except Raw)

/-- The variables and the whole expression. -/
structure Scope where
  /-- The values of variables. -/
  lookUp : Raw → Option Raw
  /-- The expression. -/
  whole : Raw

/-- Something is wrong with the expression. -/
def Scope.fail {α : Type} (s : Scope) (words : String) : Work α :=
  throw ("arithmetic expression: ".toList ++ words.toList ++ ": \"".toList ++ s.whole ++ ['"'])

/-- The next part without going past it. -/
def Scope.peek (s : Scope) : Work Lexeme := do
  match lexeme (← get).rest with
  | some (l, _) => return l
  | none => s.fail "expecting EOF"

/-- Goes past the next part. -/
def advance : Work Unit := modify fun w =>
  match lexeme w.rest with
  | some (_, rest) => { w with rest }
  | none => w

/-- The value of a variable. -/
def Scope.held (s : Scope) (name : Raw) : Work Int := do
  match (← get).assigned.lookup name with
  | some n => return n
  | none => valueOf ((s.lookUp name).getD [])

/-- How tightly an operator binds. -/
def strength? : String → Option Nat
  | "*" | "/" | "%" => some 0
  | "+" | "-" => some 1
  | "<<" | ">>" => some 2
  | "<" | "<=" | ">" | ">=" => some 3
  | "==" | "!=" => some 4
  | "&" => some 5
  | "^" => some 6
  | "|" => some 7
  | _ => none

/-- One for true. -/
def truth (b : Bool) : Int := if b then 1 else 0

/-- The bits of a number. -/
def bits (n : Int) : Nat := (n % (Nat.pow 2 64 : Int)).toNat

/-- Applies an operator. -/
def Scope.apply (s : Scope) (o : String) (a b : Int) : Work Int := do
  match o with
  | "*" => return wrap (a * b)
  | "/" => if b = 0 then s.fail "division by zero" else return wrap (a.tdiv b)
  | "%" => if b = 0 then s.fail "division by zero" else return wrap (a.tmod b)
  | "+" => return wrap (a + b)
  | "-" => return wrap (a - b)
  | "<<" => return wrap (a * Nat.pow 2 (bits b % 64))
  | ">>" => return a.fdiv (Nat.pow 2 (bits b % 64))
  | "<" => return truth (a < b)
  | "<=" => return truth (a ≤ b)
  | ">" => return truth (b < a)
  | ">=" => return truth (b ≤ a)
  | "==" => return truth (a = b)
  | "!=" => return truth (a ≠ b)
  | "&" => return wrap (bits a &&& bits b : Nat)
  | "^" => return wrap (bits a ^^^ bits b : Nat)
  | _ => return wrap (bits a ||| bits b : Nat)

/-- The levels of expressions. -/
inductive Level where
  /-- Assignments. -/
  | assignment
  /-- Choices. -/
  | choice
  /-- Disjunctions. -/
  | either
  /-- Conjunctions. -/
  | both
  /-- Operators that bind at least so tightly. -/
  | binary (strength : Nat)
  /-- What follows a value in such an expression. -/
  | after (value : Int) (strength : Nat)
  /-- Single values. -/
  | primary

/-- Evaluates an expression of a level; `idle` says that it has no effects. -/
def Scope.eval (s : Scope) : Nat → Level → (idle : Bool) → Work Int
  | 0, _, _ => s.fail "too deep"
  | fuel + 1, level, idle => do
    match level with
    | .assignment =>
      let start ← get
      match ← s.peek with
      | .name name =>
        advance
        match ← s.peek with
        | .operator o =>
          let simple := o = "="
          let combined := strength? (String.ofList o.toList.dropLast)
          if simple || (o.toList.getLast? = some '=' && combined.isSome && o ≠ "<=" && o ≠ ">=" &&
              o ≠ "==" && o ≠ "!=") then
            advance
            let value ← s.eval fuel .assignment idle
            if idle then return value
            else
              let value ← if simple then pure value
                else s.apply (String.ofList o.toList.dropLast) (← s.held name) value
              modify fun w => { w with assigned := (name, value) :: w.assigned }
              return value
          else
            set { start with assigned := (← get).assigned }
            s.eval fuel .choice idle
        | _ =>
          set { start with assigned := (← get).assigned }
          s.eval fuel .choice idle
      | _ => s.eval fuel .choice idle
    | .choice =>
      let a ← s.eval fuel .either idle
      if (← s.peek) = .operator "?" then
        advance
        let b ← s.eval fuel .assignment (idle || a = 0)
        if (← s.peek) ≠ .operator ":" then s.fail "expecting ':'"
        else
          advance
          let c ← s.eval fuel .choice (idle || a ≠ 0)
          return if a ≠ 0 then b else c
      else return a
    | .either =>
      let a ← s.eval fuel .both idle
      if (← s.peek) = .operator "||" then
        advance
        let b ← s.eval fuel .either (idle || a ≠ 0)
        return truth (a ≠ 0 || b ≠ 0)
      else return a
    | .both =>
      let a ← s.eval fuel (.binary 7) idle
      if (← s.peek) = .operator "&&" then
        advance
        let b ← s.eval fuel .both (idle || a = 0)
        return truth (a ≠ 0 && b ≠ 0)
      else return a
    | .binary strength =>
      let a ← s.eval fuel .primary idle
      s.eval fuel (.after a strength) idle
    | .after a strength =>
      match ← s.peek with
      | .operator o =>
        match strength? o with
        | some k =>
          if k ≤ strength then
            advance
            -- what binds more tightly belongs to the right side
            let b ← s.eval fuel .primary idle
            let b ← if k = 0 then pure b else s.eval fuel (.after b (k - 1)) idle
            let value ← if idle then pure b else s.apply o a b
            s.eval fuel (.after value strength) idle
          else return a
        | none => return a
      | _ => return a
    | .primary =>
      match ← s.peek with
      | .number n =>
        advance
        return n
      | .name name =>
        advance
        if idle then return 0 else s.held name
      | .operator "(" =>
        advance
        let a ← s.eval fuel .assignment idle
        if (← s.peek) ≠ .operator ")" then s.fail "expecting ')'"
        else
          advance
          return a
      | .operator "-" =>
        advance
        return wrap (-(← s.eval fuel .primary idle))
      | .operator "+" =>
        advance
        s.eval fuel .primary idle
      | .operator "~" =>
        advance
        return wrap (-(← s.eval fuel .primary idle) - 1)
      | .operator "!" =>
        advance
        return truth ((← s.eval fuel .primary idle) = 0)
      | _ => s.fail "expecting primary"

/-- The value of an expression, and the variables it assigns to, the oldest first. -/
def evaluate (lookUp : Raw → Option Raw) (text : Raw) :
    Except Raw (Int × List (Raw × Int)) := do
  let s : Scope := ⟨lookUp, text⟩
  let work : Work Int := do
    let n ← s.eval (12 * text.length + 24) .assignment false
    if (← s.peek) = .stop then return n else s.fail "expecting EOF"
  let (n, w) ← work.run { rest := text }
  return (n, w.assigned.reverse)

end LexicalModel.Command.Shell.Arithmetic
