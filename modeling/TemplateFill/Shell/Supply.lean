import TemplateFill.Files.Tree

/-!
# What a program reads and what comes of it

The input of a program need not end.  A `Supply` is a text, and what comes behind it: the end,
another text over and over, or nothing for ever.  A program that needs its whole input does not end
if the input does not.
-/

namespace TemplateFill

namespace Shell

/-- An input. -/
structure Supply where
  front : Text
  /-- The text that comes behind the front over and over; there is none if it is empty. -/
  cycle : Text
  /-- Whether the input stays open without anything coming any more. -/
  stalls : Bool
  deriving Repr

namespace Supply

/-- An input that ends behind a text. -/
def ofText (s : Text) : Supply := ⟨s, [], false⟩

/-- An input that is at its end. -/
def ended : Supply := ofText []

/-- The whole input, if it ends. -/
def whole? (s : Supply) : Option Text :=
  if s.cycle.isEmpty && !s.stalls then some s.front else none

/-- The input with at least `n` characters in front, if there are so many. -/
def unroll (s : Supply) (n : Nat) : Supply :=
  if s.cycle.isEmpty then s
  else { s with front := s.front ++ (List.replicate n s.cycle).flatten }

/-- The first `n` characters, or fewer if the input ends before, and the rest. -/
def take? (s : Supply) (n : Nat) : Option (Text × Supply) :=
  let s := if s.front.length < n then s.unroll n else s
  if s.front.length < n ∧ s.stalls then none
  else some (s.front.take n, { s with front := s.front.drop n })

/-- The first line with its end, and the rest; at the end of the input there is none. -/
def takeLine? (s : Supply) : Option (Text × Supply) :=
  let s := if s.front.contains '\n' then s else s.unroll 1
  let line := s.front.takeWhile (· ≠ '\n')
  match s.front.drop line.length with
  | '\n' :: r => some (line ++ ['\n'], { s with front := r })
  | _ =>
    if s.stalls ∨ ¬ s.cycle.isEmpty then none else some (line, { s with front := [] })

/-- The first `n` lines, or fewer if the input ends before, and the rest. -/
def takeLines? (s : Supply) : Nat → Option (Text × Supply)
  | 0 => some ([], s)
  | n + 1 => do
    let (line, s) ← s.takeLine?
    if line.isEmpty then some ([], s)
    else
      let (more, s) ← s.takeLines? n
      some (line ++ more, s)

/-- One input behind another. -/
def append (a b : Supply) : Supply :=
  match a.whole? with
  | some s => { b with front := s ++ b.front }
  | none => a

end Supply

/-- What comes of running a program. -/
structure Product where
  output : Text
  /-- The text that is written over and over behind the output. -/
  cycle : Text
  complaint : Text
  status : Nat
  /-- The time that the program takes, in nanoseconds; without one it does not end. -/
  time : Option Nat
  /-- The input that is left. -/
  rest : Supply

namespace Product

/-- A program that ends well, with the input used up. -/
def ofText (s : Text) : Product := ⟨s, [], [], 0, some 0, .ended⟩

/-- A program that ends with a status and without output. -/
def ofStatus (n : Nat) : Product := { ofText [] with status := n }

/-- A program that ends with a status and a complaint. -/
def failed (n : Nat) (complaint : Text) : Product :=
  { ofStatus n with complaint := complaint ++ ['\n'] }

/-- A program that does not end and writes nothing. -/
def endless : Product := { ofText [] with time := none }

/-- A program that does not use its input. -/
def leaving (p : Product) (s : Supply) : Product := { p with rest := s }

end Product

/-- The lines of a text, without their ends. -/
def linesOf (s : Text) : List Text :=
  let ls := Text.pieces '\n' s
  if ls.getLast? = some [] then ls.dropLast else ls

/-- Lines with their ends. -/
def ofLines (ls : List Text) : Text := ls.flatMap (· ++ ['\n'])

/-- The input that a program's operand names: a dash stands for the input that it already has. -/
def openInput (files : FileTree) (given : Supply) (name : Text) : Except FileError Supply :=
  if name = ['-'] then .ok given
  else if name = "/dev/null".toList then .ok .ended
  else if name = "/dev/zero".toList then .ok ⟨[], ['\x00'], false⟩
  else (files.read name).map .ofText

end Shell

end TemplateFill
