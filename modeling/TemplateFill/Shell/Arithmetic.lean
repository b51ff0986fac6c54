import TemplateFill.Text.Basic

/-!
# Arithmetic in shell words

Expressions over whole numbers of 64 bits, with the operators of C.  A name stands for the number
that its variable holds.  An expression may assign to a variable.
-/

namespace TemplateFill

namespace Shell

namespace Arithmetic

/-- A piece of an expression. -/
inductive Symbol where
  | number (n : Int)
  | name (s : Text)
  | operator (s : Text)
  deriving DecidableEq, Repr

/-- The binary operators, those that bind most loosely first. -/
def levels : List (List Text) :=
  [["||"], ["&&"], [['|']], [['^']], [['&']], ["==", "!="], ["<=", ">=", ['<'], ['>']],
    ["<<", ">>"], [['+'], ['-']], [['*'], ['/'], ['%']]]

/-- All operators, longer ones before those they begin with. -/
def operators : List Text :=
  Text.pieces ' '
    "<<= >>= || && == != <= >= << >> += -= *= /= %= |= &= ^= = < > | ^ & + - * / % ! ~ ( ) ? :"

/-- The value of a digit in a base up to sixteen. -/
def digit? (base : Nat) (c : Char) : Option Nat :=
  let d :=
    if c.isDigit then c.toNat - '0'.toNat
    else if 'a' ≤ c ∧ c ≤ 'f' then c.toNat - 'a'.toNat + 10
    else if 'A' ≤ c ∧ c ≤ 'F' then c.toNat - 'A'.toNat + 10
    else 99
  if d < base then some d else none

/-- The number that a constant stands for. -/
def constant? (s : Text) : Option Nat :=
  let value (base : Nat) (ds : Text) : Option Nat :=
    if ds.isEmpty then none
    else ds.foldlM (fun n c => (digit? base c).map (base * n + ·)) 0
  match s with
  | '0' :: 'x' :: r | '0' :: 'X' :: r => value 16 r
  | '0' :: r => if r.isEmpty then some 0 else value 8 r
  | r => value 10 r

/-- A number of 64 bits. -/
def wrap (i : Int) : Int := i.bmod (Nat.pow 2 64)

/-- The pieces of an expression. -/
def symbols (s : Text) : Nat → Option (List Symbol)
  | 0 => none
  | fuel + 1 =>
    match s with
    | [] => some []
    | c :: r =>
      if c = ' ' ∨ c = '\t' ∨ c = '\n' then symbols r fuel
      else if c.isAlphanum ∨ c = '_' then do
        let word := s.takeWhile fun c => c.isAlphanum || c = '_'
        let rest ← symbols (s.drop word.length) fuel
        if c.isDigit then some (.number (wrap (← constant? word)) :: rest)
        else some (.name word :: rest)
      else do
        let o ← operators.find? (·.isPrefixOf s)
        some (.operator o :: (← symbols (s.drop o.length) fuel))

/-- One for what holds, and zero for what does not. -/
def truth (b : Bool) : Int := if b then 1 else 0

/-- The value of an operation; there is none for a division by zero. -/
def operate? (o : Text) (a b : Int) : Option Int :=
  match String.ofList o with
  | "||" => some (truth (a ≠ 0 || b ≠ 0))
  | "&&" => some (truth (a ≠ 0 && b ≠ 0))
  | "|" => some (wrap (BitVec.ofInt 64 a ||| BitVec.ofInt 64 b).toInt)
  | "^" => some (wrap (BitVec.ofInt 64 a ^^^ BitVec.ofInt 64 b).toInt)
  | "&" => some (wrap (BitVec.ofInt 64 a &&& BitVec.ofInt 64 b).toInt)
  | "==" => some (truth (a = b))
  | "!=" => some (truth (a ≠ b))
  | "<=" => some (truth (a ≤ b))
  | ">=" => some (truth (b ≤ a))
  | "<" => some (truth (a < b))
  | ">" => some (truth (b < a))
  | "<<" => some (wrap (a * Nat.pow 2 (b % 64).toNat))
  | ">>" => some (wrap (a / Nat.pow 2 (b % 64).toNat))
  | "+" => some (wrap (a + b))
  | "-" => some (wrap (a - b))
  | "*" => some (wrap (a * b))
  | "/" => if b = 0 then none else some (wrap (a.tdiv b))
  | "%" => if b = 0 then none else some (wrap (a.tmod b))
  | _ => none

mutual

/-- The value of the expression at the start of some symbols, which binds at least as tightly as
the given levels. -/
def expression (value : Text → Option Int) (ls : List (List Text)) (ts : List Symbol) :
    Nat → Option (Int × List Symbol)
  | 0 => none
  | fuel + 1 =>
    match ls with
    | [] => operand value ts fuel
    | l :: ls => do
      let (a, ts) ← expression value ls ts fuel
      further value l ls a ts fuel

/-- The value of what follows operators of one level, joined to `a`. -/
def further (value : Text → Option Int) (l : List Text) (ls : List (List Text)) (a : Int)
    (ts : List Symbol) : Nat → Option (Int × List Symbol)
  | 0 => none
  | fuel + 1 =>
    match ts with
    | .operator o :: r =>
      if l.contains o then do
        let (b, r) ← expression value ls r fuel
        further value l ls (← operate? o a b) r fuel
      else some (a, ts)
    | _ => some (a, ts)

/-- The value of an operand. -/
def operand (value : Text → Option Int) (ts : List Symbol) :
    Nat → Option (Int × List Symbol)
  | 0 => none
  | fuel + 1 =>
    match ts with
    | .number n :: r => some (n, r)
    | .name x :: r => do some (← value x, r)
    | .operator ['+'] :: r => operand value r fuel
    | .operator ['-'] :: r => (operand value r fuel).map fun p => (wrap (-p.1), p.2)
    | .operator ['~'] :: r => (operand value r fuel).map fun p => (-p.1 - 1, p.2)
    | .operator ['!'] :: r => (operand value r fuel).map fun p => (truth (p.1 = 0), p.2)
    | .operator ['('] :: r => do
      match ← conditional value r fuel with
      | (a, .operator [')'] :: r) => some (a, r)
      | _ => none
    | _ => none

/-- The value of an expression that may be a choice between two. -/
def conditional (value : Text → Option Int) (ts : List Symbol) :
    Nat → Option (Int × List Symbol)
  | 0 => none
  | fuel + 1 => do
    match ← expression value levels ts fuel with
    | (a, .operator ['?'] :: r) =>
      match ← conditional value r fuel with
      | (b, .operator [':'] :: r) => do
        let (c, r) ← conditional value r fuel
        some (if a ≠ 0 then b else c, r)
      | _ => none
    | p => some p

end

/-- The value of an expression, and the assignment that it makes. -/
def evaluate (value : Text → Option Int) (s : Text) : Option (Int × Option (Text × Int)) := do
  let ts ← symbols s (s.length + 1)
  let fuel := 40 * ts.length + 40
  let whole (ts : List Symbol) : Option Int := do
    match ← conditional value ts fuel with
    | (a, []) => some a
    | _ => none
  match ts with
  | [] => some (0, none)
  | .name x :: .operator o :: r =>
    if o = ['='] then do
      let a ← whole r
      some (a, some (x, a))
    else if o.getLast? = some '=' ∧ ¬ levels.any (·.contains o) then do
      let a ← operate? o.dropLast (← value x) (← whole r)
      some (a, some (x, a))
    else do some (← whole ts, none)
  | _ => do some (← whole ts, none)

end Arithmetic

end Shell

end TemplateFill
