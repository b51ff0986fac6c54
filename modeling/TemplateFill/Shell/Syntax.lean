import TemplateFill.Text.Basic

/-!
# Shell commands

The commands behind dynamic parameters are written in the language of the POSIX shell.  This file
has the commands of the part of the language that is understood here.

A shell works on bytes.  Throughout the shell, a text has one character below 256 for each byte.
-/

namespace TemplateFill

namespace Shell

/-- What is made of a variable's value where the variable is referred to. -/
inductive Use where
  | value
  | length
  /-- The operand stands in for a variable that is not set, or is empty if `emptyToo`. -/
  | orElse (emptyToo : Bool)
  /-- The same, and the variable is set to the operand. -/
  | orAssign (emptyToo : Bool)
  /-- The same, but the shell gives up. -/
  | orFail (emptyToo : Bool)
  /-- The operand stands in for a variable that is set. -/
  | ifSet (emptyToo : Bool)
  /-- The shortest or longest match of the operand is cut off at the front. -/
  | cutFront (longest : Bool)
  /-- The shortest or longest match of the operand is cut off at the back. -/
  | cutBack (longest : Bool)
  deriving DecidableEq, Repr

/-- A part of a word.  What comes of quoted parts is neither split nor matched. -/
inductive Part where
  | literal (s : Text) (quoted : Bool)
  | reference (name : Text) (use : Use) (operand : List Part) (quoted : Bool)
  | arithmetic (expression : List Part) (quoted : Bool)
  /-- The output of a command. -/
  | output (script : Text) (quoted : Bool)
  deriving Repr, Inhabited

/-- A word of a command. -/
abbrev Word := List Part

/-- What a descriptor is redirected to. -/
inductive Target where
  | read (w : Word)
  | write (w : Word)
  | append (w : Word)
  | duplicate (w : Word)
  /-- The input is a text in the script itself. -/
  | document (w : Word)
  deriving Repr, Inhabited

/-- A redirection of a descriptor. -/
structure Redirection where
  descriptor : Nat
  target : Target
  deriving Repr, Inhabited

/-- A command. -/
inductive Command where
  | simple (assignments : List (Text × Word)) (words : List Word) (rs : List Redirection)
  | pipeline (negated : Bool) (stages : List Command)
  | and (a b : Command)
  | or (a b : Command)
  /-- Commands one after the other; those that are marked run in the background. -/
  | list (items : List (Command × Bool))
  | group (body : Command) (rs : List Redirection)
  | subshell (body : Command) (rs : List Redirection)
  | choice (test yes no : Command) (rs : List Redirection)
  /-- Repeats a body as long as the test succeeds, or as long as it fails. -/
  | loop (whileTrue : Bool) (test body : Command) (rs : List Redirection)
  /-- Repeats a body for words; without words, for the arguments of the shell. -/
  | each (name : Text) (words : Option (List Word)) (body : Command) (rs : List Redirection)
  /-- Chooses the first branch with a pattern that a word matches. -/
  | select (subject : Word) (branches : List (List Word × Command)) (rs : List Redirection)
  | define (name : Text) (body : Command)
  deriving Repr, Inhabited

end Shell

end TemplateFill
