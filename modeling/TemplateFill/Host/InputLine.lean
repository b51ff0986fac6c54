import TemplateFill.Session.Loop
import TemplateFill.Text.Utf8

/-!
# Input lines

A user who fills in a template line by line writes the text of the value that has the focus, or a
command after a colon.  An empty line confirms.  A text that begins with a colon is written with
one more colon in front.

The lines of an input are decoded in order.  A line that is no command that there is has no effect
but to be reported.  A line whose bytes are no text ends the input.
-/

namespace TemplateFill

namespace InputLine

/-- A line without the line feeds and carriage returns at its end. -/
def chomp (line : Text) : Text :=
  (line.reverse.dropWhile fun c => c = '\r' || c = '\n').reverse

/-- The number that a text of digits stands for, with or without a plus sign in front, if it fits
into 64 bits. -/
def readIndex (s : Text) : Option Nat := do
  let digits := match s with
    | '+' :: r => r
    | r => r
  let n ← Text.toNat? digits
  if n < Nat.pow 2 64 then some n else none

/-- The commands that are words. -/
def words : List (Text × Input) :=
  [("n", .next), ("next", .next), ("p", .prev), ("prev", .prev), ("j", .down), ("down", .down),
    ("k", .up), ("up", .up), ("bs", .backspace), ("q", .cancel), ("quit", .cancel)]

/-- The input that a command stands for: a word, or the number of an option, counted from one. -/
def command? (s : Text) : Option Input :=
  match words.lookup s with
  | some i => some i
  | none =>
    match readIndex s with
    | some (k + 1) => some (.chooseAndConfirm k)
    | _ => none

/-- The input that a line stands for. -/
def decode? (line : Text) : Option Input :=
  match chomp line with
  | [] => some .enter
  | ':' :: ':' :: r => some (.setTextAndConfirm (':' :: r))
  | ':' :: r => command? (Text.trim r)
  | s => some (.setTextAndConfirm s)

/-- What the lines of an input say. -/
structure Decoded where
  inputs : List Input
  /-- The lines that are no command that there is. -/
  unrecognized : List Text
  /-- The number of the line that is no text, counted from one. -/
  badLine : Option Nat
  deriving DecidableEq, Repr

/-- The lines from number `n` on. -/
def decodeLines (n : Nat) : List (List UInt8) → Decoded
  | [] => ⟨[], [], none⟩
  | bytes :: ls =>
    match Utf8.decode? bytes with
    | none => ⟨[], [], some n⟩
    | some line =>
      let rest := decodeLines (n + 1) ls
      match decode? line with
      | some i => { rest with inputs := i :: rest.inputs }
      | none => { rest with unrecognized := line :: rest.unrecognized }

/-- What the bytes of an input say. -/
def decodeBytes (bytes : List UInt8) : Decoded :=
  decodeLines 1 (Text.cutLines 13 10 bytes)

/-- The report of a line that is no command that there is. -/
def unrecognizedMessage (line : Text) : Text :=
  "unrecognized command '" ++ line.trimEnd ++ "'"

/-- The report of a line that is no text. -/
def badLineMessage (n : Nat) : Text := "failed to read input line " ++ Text.ofNat n

end InputLine

end TemplateFill
