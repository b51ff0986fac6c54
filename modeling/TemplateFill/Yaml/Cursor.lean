import TemplateFill.Text.Basic

/-!
# A place in a YAML text

A cursor is what is left of a text, with the line, the column and the index of its first character.
Lines end at a line feed, a carriage return, both together, or one of the characters NEL, LS and PS.
-/

namespace TemplateFill

namespace Yaml

/-- Whether a line ends at a character. -/
def isBreak (c : Char) : Bool :=
  c = '\n' || c = '\r' || c = '\x85' || c = '\u2028' || c = '\u2029'

/-- Whether a character is a space or a tab. -/
def isWhite (c : Char) : Bool := c = ' ' || c = '\t'

/-- Whether a text is at its end, or goes on with a space, a tab or a line's end. -/
def endsWord : Text → Bool
  | [] => true
  | c :: _ => isWhite c || isBreak c

/-- Whether a text is at its end, or goes on with a line's end. -/
def endsLine : Text → Bool
  | [] => true
  | c :: _ => isBreak c

/-- The characters of names: ASCII letters and digits, dashes and underscores. -/
def isWordChar (c : Char) : Bool := c.isAlphanum || c = '-' || c = '_'

/-- The characters that a YAML text may hold. -/
def isAllowed (c : Char) : Bool :=
  let n := c.toNat
  n = 0x09 || n = 0x0A || n = 0x0D || (0x20 ≤ n && n ≤ 0x7E) || n = 0x85
    || (0xA0 ≤ n && n ≤ 0xD7FF) || (0xE000 ≤ n && n ≤ 0xFFFD) || 0x10000 ≤ n

/-- A place in a text. -/
structure Cursor where
  rest : Text
  line : Nat
  column : Nat
  index : Nat
  deriving Repr

namespace Cursor

/-- The start of a text. -/
def start (s : Text) : Cursor := ⟨s, 0, 0, 0⟩

/-- The first character. -/
def peek? (c : Cursor) : Option Char := c.rest.head?

/-- The place behind some characters, none of which ends a line. -/
def skip (c : Cursor) (n : Nat) : Cursor :=
  ⟨c.rest.drop n, c.line, c.column + n, c.index + n⟩

/-- The place behind the characters of a class, none of which ends a line. -/
def skipWhile (c : Cursor) (p : Char → Bool) : Cursor := c.skip (c.rest.takeWhile p).length

/-- The text that the line's end at a place stands for, and the place behind it. -/
def readBreak (c : Cursor) : Text × Cursor :=
  match c.rest with
  | '\r' :: '\n' :: r => (['\n'], ⟨r, c.line + 1, 0, c.index + 2⟩)
  | x :: r =>
    if x = '\u2028' ∨ x = '\u2029' then ([x], ⟨r, c.line + 1, 0, c.index + 1⟩)
    else if isBreak x then (['\n'], ⟨r, c.line + 1, 0, c.index + 1⟩)
    else ([], c)
  | [] => ([], c)

/-- The place behind the line's end, if there is one. -/
def skipBreak (c : Cursor) : Cursor := c.readBreak.2

/-- Whether a line starts here that begins or ends a document. -/
def atDocumentMark (c : Cursor) : Bool :=
  c.column = 0 &&
    match c.rest with
    | '-' :: '-' :: '-' :: r => endsWord r
    | '.' :: '.' :: '.' :: r => endsWord r
    | _ => false

end Cursor

end Yaml

end TemplateFill
