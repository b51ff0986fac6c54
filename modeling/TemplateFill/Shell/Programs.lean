import TemplateFill.Shell.Printing
import TemplateFill.Shell.StreamEditor
import TemplateFill.Shell.Test

/-!
# The programs that can be started

A program is found by its name, or by its path in one of the directories where programs are.
-/

namespace TemplateFill

namespace Shell

/-- A whole number with a sign. -/
def signedNumber? (s : Text) : Option Int :=
  match s with
  | '-' :: r => (Text.toNat? r).map fun n => -n
  | '+' :: r => (Text.toNat? r).map fun n => n
  | r => (Text.toNat? r).map fun n => n

/-- Prints whole numbers in a row. -/
def seq : Program := fun l =>
  let (separator, width, args) := match l.arguments with
    | ['-', 's'] :: s :: r => (s, false, r)
    | ['-', 'w'] :: r => ((['\n'] : Text), true, r)
    | r => ((['\n'] : Text), false, r)
  match args.mapM signedNumber? with
  | none => .failed 1 "seq: invalid argument"
  | some ns =>
    let bounds : Option (Int × Int × Int) := match ns with
      | [b] => some (1, 1, b)
      | [a, b] => some (a, 1, b)
      | [a, s, b] => if s = 0 then none else some (a, s, b)
      | _ => none
    match bounds with
    | none => .failed 1 "seq: invalid argument"
    | some (a, s, b) =>
      let count := if 0 < s then (b - a) / s + 1 else (a - b) / (-s) + 1
      let texts := (List.range count.toNat).map fun (k : Nat) => Text.ofInt (a + s * k)
      let widest := (texts.map List.length).foldl max 0
      let texts := if width then texts.map (padTo false '0' widest) else texts
      let out := Text.join separator texts
      .leaving (.ofText (if out.isEmpty then [] else out ++ ['\n'])) l.input

/-- The nanoseconds that an argument such as `0.5` or `2m` asks for; none for a time without end. -/
def pause? (s : Text) : Option (Option Nat) :=
  if s = "infinity".toList ∨ s = "inf".toList then some none
  else
    let whole := s.takeWhile Char.isDigit
    let (part, rest) := match s.drop whole.length with
      | '.' :: r => (r.takeWhile Char.isDigit, r.dropWhile Char.isDigit)
      | r => ([], r)
    let digits := whole ++ (part ++ List.replicate 9 '0').take 9
    if (whole ++ part).isEmpty then none
    else
      let n := Nat.ofDigitChars 10 digits 0
      match rest with
      | [] | ['s'] => some (some n)
      | ['m'] => some (some (60 * n))
      | ['h'] => some (some (3600 * n))
      | ['d'] => some (some (86400 * n))
      | _ => none

/-- Does nothing for some time. -/
def sleep : Program := fun l =>
  match l.arguments.mapM pause? with
  | none => .failed 1 "sleep: invalid time interval"
  | some [] => .failed 1 "sleep: missing operand"
  | some ts =>
    let total := ts.foldl (fun a b => do return (← a) + (← b)) (some 0)
    .leaving { Product.ofText [] with time := total } l.input

/-- Prints a line over and over. -/
def yes : Program := fun l =>
  let line := if l.arguments.isEmpty then ['y'] else Text.join [' '] l.arguments
  .leaving { Product.ofText [] with cycle := line ++ ['\n'], time := none } l.input

/-- The last name of a path. -/
def baseName (s : Text) : Text :=
  let t := (s.reverse.dropWhile (· = '/')).takeWhile (· ≠ '/')
  if t.isEmpty ∧ s.head? = some '/' then ['/'] else t.reverse

/-- A path without its last name. -/
def directoryName (s : Text) : Text :=
  let t := (s.reverse.dropWhile (· = '/')).dropWhile (· ≠ '/')
  let t := t.dropWhile (· = '/')
  if ¬ t.isEmpty then t.reverse
  else if s.head? = some '/' then ['/']
  else ['.']

/-- Prints the last name of a path, without an ending if one is given. -/
def basename : Program := fun l =>
  match l.arguments with
  | [] => .failed 1 "basename: missing operand"
  | s :: r =>
    let name := baseName s
    let name := match r with
      | [ending] =>
        if ending.isSuffixOf name ∧ ending ≠ name then name.take (name.length - ending.length)
        else name
      | _ => name
    .leaving (.ofText (name ++ ['\n'])) l.input

/-- Prints paths without their last names. -/
def dirname : Program := fun l =>
  if l.arguments.isEmpty then .failed 1 "dirname: missing operand"
  else .leaving (.ofText (ofLines (l.arguments.map directoryName))) l.input

/-- Prints the names in a directory, which are sorted. -/
def ls : Program := withOptions "ls" "1aAlhtr" [] 2 fun o l =>
  let names := if o.operands.isEmpty then [['.']] else o.operands
  let listed : List (Except Text (List Text)) := names.map fun n =>
    match l.files.find n with
    | .ok (.file _) => .ok [n]
    | .ok (.directory es) =>
      let es := es.map Prod.fst
      let es := if o.has 'a' then ['.'] :: ['.', '.'] :: es else es
      let es := if o.has 'a' ∨ o.has 'A' then es else es.filter fun e => e.head? ≠ some '.'
      .ok (es.mergeSort fun a b => Text.order a b ≠ .gt)
    | .error _ => .error n
  let out := listed.flatMap fun r => match r with | .ok es => es | .error _ => []
  let complaint := listed.flatMap fun r =>
    match r with
    | .ok _ => []
    | .error n => "ls: cannot access '" ++ n ++ "': No such file or directory\n"
  .leaving { Product.ofText (ofLines out) with
    complaint := complaint, status := if complaint.isEmpty then 0 else 2 } l.input

/-- Calculates with two numbers, or compares two operands. -/
def expr : Program := fun l =>
  let answer (t : Text) : Product :=
    let zero := t.isEmpty || signedNumber? t = some 0
    .leaving { Product.ofText (t ++ ['\n']) with status := if zero then 1 else 0 } l.input
  let truth (b : Bool) : Product := answer (if b then ['1'] else ['0'])
  match l.arguments with
  | [a] => answer a
  | [['l', 'e', 'n', 'g', 't', 'h'], a] => answer (Text.ofNat a.length)
  | [a, o, b] =>
    let numbers := do return (← signedNumber? a, ← signedNumber? b)
    let compared : Ordering := match numbers with
      | some (x, y) => compare x y
      | none => Text.order a b
    match String.ofList o with
    | "=" => truth (compared = .eq)
    | "!=" => truth (compared ≠ .eq)
    | "<" => truth (compared = .lt)
    | "<=" => truth (compared ≠ .gt)
    | ">" => truth (compared = .gt)
    | ">=" => truth (compared ≠ .lt)
    | _ =>
      match numbers.bind fun p => Arithmetic.operate? o p.1 p.2 with
      | some n => answer (Text.ofInt n)
      | none => .failed 2 "expr: invalid argument"
  | _ => .failed 2 "expr: syntax error"

/-- Answers a condition between brackets. -/
def bracket : Program := fun l =>
  if l.arguments.getLast? = some [']'] then
    .leaving (.ofStatus (Test.status l.files l.arguments.dropLast)) l.input
  else .leaving (.failed 2 "[: missing ]") l.input

/-- The program with a name.  All of them need nothing but what they are started with. -/
def program? (name : Text) : Option Program :=
  match String.ofList name with
  | "true" => some fun l => .leaving (.ofStatus 0) l.input
  | "false" => some fun l => .leaving (.ofStatus 1) l.input
  | "echo" => some fun l => .leaving (.ofText (echo l.arguments)) l.input
  | "printf" => some fun l => .leaving (printf l.arguments) l.input
  | "test" => some fun l => .leaving (.ofStatus (Test.status l.files l.arguments)) l.input
  | "[" => some bracket
  | "cat" => some cat
  | "head" => some head
  | "tail" => some tail
  | "tac" => some tac
  | "rev" => some rev
  | "sort" => some sort
  | "uniq" => some uniq
  | "cut" => some cut
  | "wc" => some wc
  | "nl" => some nl
  | "tr" => some tr
  | "grep" => some grep
  | "sed" => some sed
  | "seq" => some seq
  | "sleep" => some sleep
  | "yes" => some yes
  | "basename" => some basename
  | "dirname" => some dirname
  | "ls" => some ls
  | "expr" => some expr
  | _ => none

/-- The names of shells. -/
def shells : List Text := ["sh", "dash", "bash"]

/-- The names of programs that start other programs, with changes to what these find. -/
def starters : List Text := ["env", "nohup"]

/-- The directories where programs are. -/
def programDirectories : List Text := ["/bin", "/usr/bin"]

/-- The name of the program that a name or path leads to. -/
def programName? (s : Text) : Option Text :=
  let name :=
    if s.contains '/' then
      (if programDirectories.contains (directoryName s) then baseName s else [])
    else s
  if shells.contains name ∨ starters.contains name ∨ (program? name).isSome then some name
  else none

end Shell

end TemplateFill
