import TemplateFill.Text.Basic

/-!
# Shell patterns

In a pattern a star stands for any text, a question mark for any character, and brackets for one of
the characters between them.  Quoted characters stand for themselves.
-/

namespace TemplateFill

namespace Shell

namespace Pattern

/-- A piece of a pattern. -/
inductive Piece where
  | exactly (c : Char)
  | any
  | many
  /-- One character, which is in one of some ranges or, if `negated`, in none of them. -/
  | within (negated : Bool) (ranges : List (Char × Char))
  deriving DecidableEq, Repr

/-- The ranges up to a closing bracket; a bracket that comes first stands for itself. -/
def readRanges (first : Bool) : Text → Option (List (Char × Char) × Text)
  | [] => none
  | ']' :: r => if first then (readRanges false r).map fun p => ((']', ']') :: p.1, p.2)
    else some ([], r)
  | a :: '-' :: b :: r =>
    if b = ']' then (readRanges false ('-' :: b :: r)).map fun p => ((a, a) :: p.1, p.2)
    else (readRanges false r).map fun p => ((a, b) :: p.1, p.2)
  | a :: r => (readRanges false r).map fun p => ((a, a) :: p.1, p.2)
termination_by s => s.length

/-- The pieces of a pattern, in which each character is marked if it is quoted. -/
def pieces (s : List (Char × Bool)) : Nat → List Piece
  | 0 => []
  | fuel + 1 =>
    match s with
    | [] => []
    | ('*', false) :: r => .many :: pieces r fuel
    | ('?', false) :: r => .any :: pieces r fuel
    | ('[', false) :: r =>
      let text := r.map Prod.fst
      let (negated, inner) := match text with
        | '!' :: t | '^' :: t => (true, t)
        | t => (false, t)
      match readRanges true inner with
      | some (ranges, rest) =>
        .within negated ranges :: pieces (r.drop (r.length - rest.length)) fuel
      | none => .exactly '[' :: pieces r fuel
    | (c, _) :: r => .exactly c :: pieces r fuel

/-- Whether a piece stands for a character. -/
def Piece.accepts : Piece → Char → Bool
  | .exactly c, x => c = x
  | .any, _ => true
  | .many, _ => true
  | .within negated ranges, x => negated != ranges.any fun r => r.1 ≤ x && x ≤ r.2

/-- Whether pieces stand for a whole text. -/
def accepts : List Piece → Text → Bool
  | [], s => s.isEmpty
  | .many :: ps, [] => accepts ps []
  | .many :: ps, c :: s => accepts ps (c :: s) || accepts (.many :: ps) s
  | p :: ps, c :: s => p.accepts c && accepts ps s
  | _ :: _, [] => false
termination_by ps s => (ps.length, s.length)

end Pattern

/-- The text without its shortest or longest beginning that pieces stand for. -/
def cutFront (longest : Bool) (ps : List Pattern.Piece) (s : Text) : Text :=
  let lengths := List.range (s.length + 1)
  let lengths := if longest then lengths.reverse else lengths
  match lengths.find? fun n => Pattern.accepts ps (s.take n) with
  | some n => s.drop n
  | none => s

/-- The text without its shortest or longest end that pieces stand for. -/
def cutBack (longest : Bool) (ps : List Pattern.Piece) (s : Text) : Text :=
  let lengths := List.range (s.length + 1)
  let lengths := if longest then lengths else lengths.reverse
  match lengths.find? fun n => Pattern.accepts ps (s.drop n) with
  | some n => s.take n
  | none => s

end Shell

end TemplateFill
