import TemplateFill.Yaml.Plain
import TemplateFill.Yaml.Scalar

/-!
# Writing YAML scalars

A pen is a text that is being written.  It knows whether a blank has just been written, so that none
is written twice, and whether nothing but marks has been written on the line yet.

`styleOf` is the style in which a text is written.  It is plain, unless

* the text has lines, and is then written as a literal block;
* it would be read as something else, and is then quoted;
* the style would not keep the text as it is, and double quotes take its place, which keep any text.
-/

namespace TemplateFill

namespace Yaml

/-! ### The style of a text -/

/-- Whether a character can be written as it is. -/
def isPrintable (c : Char) : Bool :=
  let n := c.toNat
  n = 0x0A || (0x20 ≤ n && n ≤ 0x7E)
    || (0xA0 ≤ n && n ≠ 0xFEFF && n ≠ 0xFFFE && n ≠ 0xFFFF)

/-- Whether a text is at its end or goes on with a blank, counting a null character as one. -/
def endsMark (s : Text) : Bool := endsWord s || s.head? = some '\x00'

/-- Whether a text holds a neighbouring pair of characters of two classes. -/
def hasPair (p q : Char → Bool) : Text → Bool
  | a :: b :: r => (p a && q b) || hasPair p q (b :: r)
  | _ => false

/-- Whether a colon before a blank or a number sign after one stands in a text behind its first
character. -/
def hasInnerMark : Text → Bool
  | a :: b :: r =>
    (b = ':' && endsMark r) || (b = '#' && endsMark [a]) || hasInnerMark (b :: r)
  | _ => false

/-- Whether a text starts like something that is no plain scalar. -/
def startsLikeMark (s : Text) : Bool :=
  "---".toList.isPrefixOf s || "...".toList.isPrefixOf s ||
    match s with
    | c :: r =>
      c ∈ "#,[]\x7b\x7d&*!|>'\"%@\x60".toList || ((c = '?' || c = ':' || c = '-') && endsMark r)
    | [] => false

/-- Whether a text holds a space just before a line's end, or a character that cannot be written as
it is. -/
def needsEscapes (s : Text) : Bool :=
  hasPair (· = ' ') isBreak s || !s.all isPrintable

/-- Whether a text can be written plain. -/
def canBePlain (s : Text) : Bool :=
  !(needsEscapes s || s.any isBreak || s.head? = some ' ' || s.getLast? = some ' '
    || startsLikeMark s || hasInnerMark s)

/-- Whether a text can be written between single quotes. -/
def canBeSingleQuoted (s : Text) : Bool := !(needsEscapes s || hasPair isBreak (· = ' ') s)

/-- Whether a text can be written as a block. -/
def canBeLiteral (s : Text) : Bool := !(needsEscapes s || s.isEmpty || s.getLast? = some ' ')

/-- Whether a plain scalar of a text would be read as that text. -/
def readsAsText (s : Text) : Bool := Meaning.ofPlain s = .text && !hasLeadingZero s

/-- The style in which a text is written. -/
def styleOf (s : Text) : Style :=
  if s.contains '\n' then (if canBeLiteral s then .literal else .doubleQuoted)
  else if readsAsText s && canBePlain s then .plain
  else if canBeSingleQuoted s then .singleQuoted
  else .doubleQuoted

/-! ### The pen -/

/-- A text that is being written. -/
structure Pen where
  /-- What has been written, the last character first. -/
  written : Text
  column : Nat
  /-- Whether no blank is needed before the next mark. -/
  spaced : Bool
  /-- Whether there are only blanks and marks on the line. -/
  fresh : Bool
  deriving Repr

namespace Pen

/-- A pen that has written nothing. -/
def start : Pen := ⟨[], 0, true, true⟩

/-- What has been written. -/
def text (p : Pen) : Text := p.written.reverse

/-- Writes characters of which none ends a line. -/
def put (p : Pen) (s : Text) : Pen :=
  { p with written := s.reverse ++ p.written, column := p.column + s.length }

/-- Writes a line's end. -/
def endLine (p : Pen) (c : Char) : Pen :=
  { p with written := c :: p.written, column := 0, fresh := true }

/-- Goes to a column of a line on which nothing is written yet, or of the next line. -/
def indentTo (p : Pen) (n : Nat) : Pen :=
  let p := if !p.fresh || n < p.column || (p.column = n && !p.spaced) then p.endLine '\n' else p
  { p.put (List.replicate (n - p.column) ' ') with spaced := true, fresh := true }

/-- Writes a mark, behind a blank if one is asked for and there is none yet. -/
def mark (p : Pen) (s : Text) (afterBlank spaced fresh : Bool) : Pen :=
  let p := if afterBlank && !p.spaced then p.put [' '] else p
  { p.put s with spaced := spaced, fresh := p.fresh && fresh }

/-- The pen behind a scalar. -/
def behindScalar (p : Pen) : Pen := { p with spaced := false, fresh := false }

/-- Writes a plain scalar. -/
def plain (p : Pen) (s : Text) : Pen :=
  let p := if !p.spaced && !s.isEmpty then p.put [' '] else p
  (p.put s).behindScalar

/-- Writes the characters of a text, those after a line's end at a column. -/
def lines (n : Nat) (write : Char → Text) : Bool → Text → Pen → Pen
  | _, [], p => p
  | afterBreak, c :: r, p =>
    if isBreak c then lines n write true r (p.endLine c)
    else
      let p := if afterBreak then p.indentTo n else p
      lines n write false r { p.put (write c) with fresh := false }

/-- Writes a scalar between single quotes, inside which a quote is written twice. -/
def singleQuoted (p : Pen) (n : Nat) (s : Text) : Pen :=
  let p := p.mark ['\''] true false false
  let p := lines n (fun c => if c = '\'' then ['\'', '\''] else [c]) false s p
  let p := if s.getLast?.any isBreak then p.indentTo n else p
  (p.mark ['\''] false false false).behindScalar

/-- Upper case hexadecimal digits of a number. -/
def hexDigits (width n : Nat) : Text :=
  let ds := (Nat.toDigits 16 n).map Char.toUpper
  List.replicate (width - ds.length) '0' ++ ds

/-- A character as it is written between double quotes. -/
def escaped (c : Char) : Text :=
  if c = '"' ∨ c = '\\' then ['\\', c]
  else if isPrintable c && !isBreak c then [c]
  else match c.toNat with
    | 0x00 => "\\0"
    | 0x07 => "\\a"
    | 0x08 => "\\b"
    | 0x09 => "\\t"
    | 0x0A => "\\n"
    | 0x0B => "\\v"
    | 0x0C => "\\f"
    | 0x0D => "\\r"
    | 0x1B => "\\e"
    | 0x85 => "\\N"
    | 0x2028 => "\\L"
    | 0x2029 => "\\P"
    | n =>
      if n ≤ 0xFF then "\\x" ++ hexDigits 2 n
      else if n ≤ 0xFFFF then "\\u" ++ hexDigits 4 n
      else "\\U" ++ hexDigits 8 n

/-- Writes a scalar between double quotes. -/
def doubleQuoted (p : Pen) (s : Text) : Pen :=
  let p := p.mark ['"'] true false false
  ((p.put (s.flatMap escaped)).mark ['"'] false false false).behindScalar

/-- The marks of a block: the width of its indentation if the text starts with a blank, and what
becomes of the line ends at its end. -/
def blockMarks (s : Text) : Text :=
  let width : Text := if s.head?.any fun c => c = ' ' || isBreak c then ['2'] else []
  let chomping : Text := match s.reverse with
    | [] => ['-']
    | c :: r =>
      if ¬ isBreak c then ['-']
      else if r.isEmpty ∨ r.head?.any isBreak then ['+']
      else []
  width ++ chomping

/-- Writes a block of the lines of a text. -/
def literal (p : Pen) (n : Nat) (s : Text) : Pen :=
  let p := (p.mark ['|'] true false false).put (blockMarks s)
  lines n (fun c => [c]) true s { p.endLine '\n' with spaced := true }

/-- Writes a scalar that is indented to a column. -/
def string (p : Pen) (n : Nat) (s : Text) : Pen :=
  match styleOf s with
  | .plain => p.plain s
  | .singleQuoted => p.singleQuoted n s
  | .literal => p.literal n s
  | _ => p.doubleQuoted s

end Pen

end Yaml

end TemplateFill
