import TemplateFill.Shell.Supply

/-!
# Tests

The conditions of `test` compare texts and numbers and ask for files.
-/

namespace TemplateFill

namespace Shell

namespace Test

/-- The whole number that an operand is. -/
def integer? (s : Text) : Option Int :=
  let s := Text.join [] (Text.pieces ' ' s)
  match s with
  | '-' :: r => (Text.toNat? r).map fun n => -n
  | '+' :: r => (Text.toNat? r).map fun n => n
  | r => (Text.toNat? r).map fun n => n

/-- The answer to a question about one operand; without one the question does not exist. -/
def unary? (files : FileTree) (o a : Text) : Option Bool :=
  let device := a = "/dev/null".toList || a = "/dev/zero".toList
  let isFile := (files.read a).isOk
  let isDirectory := files.contains a && !isFile
  match String.ofList o with
  | "-n" => some (!a.isEmpty)
  | "-z" => some a.isEmpty
  | "-e" => some (files.contains a || device)
  | "-r" | "-w" => some (files.contains a || device)
  | "-f" => some isFile
  | "-d" => some isDirectory
  | "-x" => some isDirectory
  | "-s" => some (match files.read a with | .ok c => !c.isEmpty | .error _ => isDirectory)
  | "-h" | "-L" | "-p" | "-S" | "-b" | "-t" | "-u" | "-g" | "-k" => some false
  | "-c" => some device
  | _ => none

/-- The answer to a comparison; without one it does not exist, or an operand is no number. -/
def binary? (a o b : Text) : Option (Option Bool) :=
  let numbers (p : Int → Int → Bool) : Option (Option Bool) :=
    some (do return p (← integer? a) (← integer? b))
  match String.ofList o with
  | "=" | "==" => some (some (a = b))
  | "!=" => some (some (a ≠ b))
  | "<" => some (some (a < b))
  | ">" => some (some (b < a))
  | "-eq" => numbers (· = ·)
  | "-ne" => numbers (· ≠ ·)
  | "-lt" => numbers (· < ·)
  | "-le" => numbers (· ≤ ·)
  | "-gt" => numbers (· > ·)
  | "-ge" => numbers (· ≥ ·)
  | _ => none

mutual

/-- The answer to a condition at the start of some words, and the words behind it. -/
def disjunction (files : FileTree) (ws : List Text) : Nat → Option (Bool × List Text)
  | 0 => none
  | fuel + 1 => do
    let (a, ws) ← conjunction files ws fuel
    match ws with
    | ['-', 'o'] :: ws =>
      let (b, ws) ← disjunction files ws fuel
      some (a || b, ws)
    | ws => some (a, ws)

/-- The same without alternatives. -/
def conjunction (files : FileTree) (ws : List Text) : Nat → Option (Bool × List Text)
  | 0 => none
  | fuel + 1 => do
    let (a, ws) ← primary files ws fuel
    match ws with
    | ['-', 'a'] :: ws =>
      let (b, ws) ← conjunction files ws fuel
      some (a && b, ws)
    | ws => some (a, ws)

/-- The same for a single condition. -/
def primary (files : FileTree) (ws : List Text) : Nat → Option (Bool × List Text)
  | 0 => none
  | fuel + 1 =>
    let single : Option (Bool × List Text) :=
      match ws with
      | [] => none
      | ['!'] :: r =>
        if r.isEmpty then some (true, [])
        else (primary files r fuel).map fun p => (!p.1, p.2)
      | ['('] :: r => do
        match ← disjunction files r fuel with
        | (a, [')'] :: r) => some (a, r)
        | _ => none
      | o :: a :: r =>
        match unary? files o a with
        | some b => some (b, r)
        | none => some (!o.isEmpty, a :: r)
      | [a] => some (!a.isEmpty, [])
    match ws with
    | a :: o :: b :: r =>
      match binary? a o b with
      | some (some x) => some (x, r)
      | some none => none
      | none => single
    | _ => single

end

/-- The status of a condition: zero if it holds, one if not, and two if it is none. -/
def status (files : FileTree) (ws : List Text) : Nat :=
  match ws with
  | [] => 1
  | _ =>
    match disjunction files ws (4 * ws.length + 4) with
    | some (b, []) => if b then 0 else 1
    | _ => 2

end Test

end Shell

end TemplateFill
