import TemplateFill.Text.Basic

/-!
# Blank characters and lines

The blanks are the characters with the Unicode property `White_Space`.  Trimming removes them from
the ends of a text.  A line ends at a line feed, and a carriage return just before the line feed
belongs to the line's end, not to the line.
-/

namespace TemplateFill

/-- The Unicode property `White_Space`. -/
def isBlank (c : Char) : Bool :=
  let n := c.toNat
  (0x09 ≤ n && n ≤ 0x0D) || n == 0x20 || n == 0x85 || n == 0xA0 || n == 0x1680
    || (0x2000 ≤ n && n ≤ 0x200A) || n == 0x2028 || n == 0x2029 || n == 0x202F || n == 0x205F
    || n == 0x3000

namespace Text

/-- The text without the blanks at its end. -/
def trimEnd (s : Text) : Text := (s.reverse.dropWhile isBlank).reverse

/-- The text without the blanks at its two ends. -/
def trim (s : Text) : Text := trimEnd (s.dropWhile isBlank)

/-- The lines of a sequence, each ended by `lf` or by `cr` and `lf`.  A last line without an end
counts only if it is not empty, and keeps a `cr` at its end. -/
def cutLines {α : Type} [DecidableEq α] (cr lf : α) : List α → List (List α)
  | [] => []
  | c :: r =>
    if c = lf then [] :: cutLines cr lf r
    else if c = cr ∧ r.head? = some lf then cutLines cr lf r
    else match cutLines cr lf r with
      | [] => [[c]]
      | l :: ls => (c :: l) :: ls

/-- The lines of a text. -/
def lines (s : Text) : List Text := cutLines '\r' '\n' s

end Text

end TemplateFill
