import TemplateFill.Shell.Arithmetic
import TemplateFill.Shell.FileNames
import TemplateFill.Shell.State

/-!
# What words stand for

References, arithmetic and the output of commands in a word are replaced by their texts.  Those
that are not quoted are then split into fields, and fields that are patterns become the names of the
files that they match.  A word may so stand for any number of arguments.
-/

namespace TemplateFill

namespace Shell

/-- A piece of what a word stands for. -/
inductive Glyph where
  | char (c : Char) (quoted : Bool)
  /-- A border between fields. -/
  | gap
  /-- There is a field here, even if it is empty. -/
  | mark
  deriving DecidableEq, Repr

namespace Glyph

/-- The glyphs of a text, which is split at some characters if it is not quoted.  Blanks among
these never make empty fields. -/
def ofText (separators : Text) (quoted : Bool) (s : Text) : List Glyph :=
  if quoted then .mark :: s.map (.char · true)
  else s.flatMap fun c =>
    if separators.contains c then
      (if c = ' ' ∨ c = '\t' ∨ c = '\n' then [.gap] else [.mark, .gap])
    else [.char c false]

/-- The fields of a row of glyphs. -/
def fields (gs : List Glyph) : List Field :=
  let (done, current) := gs.foldl (fun (done, current) g =>
    match g, current with
    | .gap, none => (done, none)
    | .gap, some t => (t :: done, none)
    | .mark, none => (done, some [])
    | .mark, some t => (done, some t)
    | .char c q, none => (done, some [(c, q)])
    | .char c q, some t => (done, some ((c, q) :: t))) (([] : List Field), (none : Option Field))
  ((current.toList ++ done).map List.reverse).reverse

/-- The text of a row of glyphs. -/
def text (gs : List Glyph) : Text :=
  gs.filterMap fun g =>
    match g with
    | .char c _ => some c
    | .gap => some ' '
    | .mark => none

/-- The pieces of the pattern that a row of glyphs is. -/
def pattern (gs : List Glyph) : List Pattern.Piece :=
  let cs := gs.filterMap fun g =>
    match g with
    | .char c q => some (c, q)
    | .gap => some (' ', true)
    | .mark => none
  Pattern.pieces cs (cs.length + 1)

end Glyph

/-- A way to run a script for its output. -/
abbrev Substitution := Text → Action Text

/-- The number that a variable holds. -/
def numberOf (s : State) (name : Text) : Option Int :=
  match (s.lookup? name).getD [] with
  | [] => some 0
  | '-' :: r => (Arithmetic.constant? r).map fun n => -n
  | '+' :: r => (Arithmetic.constant? r).map fun n => n
  | r => (Arithmetic.constant? r).map fun n => n

/-- The value of a reference whose variable is not set. -/
def unsetValue (name : Text) : Action Text := do
  if (← get).options.contains 'u' ∧ name ≠ ['@'] ∧ name ≠ ['*'] then
    Action.giveUp 2 (name ++ ": parameter not set")
  else return []

mutual

/-- The glyphs of a part of a word, which may be split. -/
def expandPart (run : Substitution) (split : Bool) (p : Part) : Nat → Action (List Glyph)
  | 0 => throw .endless
  | fuel + 1 => do
    match p with
    | .literal s quoted =>
      return if quoted then .mark :: s.map (.char · true) else s.map (.char · false)
    | .output script quoted =>
      let t ← run script
      let t := (t.reverse.dropWhile (· = '\n')).reverse.filter (· ≠ '\x00')
      return Glyph.ofText ((← get).separatorsIf split) quoted t
    | .arithmetic expression quoted =>
      let t := Glyph.text (← expandParts run false expression fuel)
      let s ← get
      match Arithmetic.evaluate (numberOf s) t with
      | none => Action.giveUp 2 "arithmetic expression: cannot be evaluated"
      | some (n, assigned) =>
        match assigned with
        | some (name, value) => modify (·.setVariable name (Text.ofInt value))
        | none => pure ()
        return Glyph.ofText (s.separatorsIf split) quoted (Text.ofInt n)
    | .reference name use operand quoted =>
      let s ← get
      let value := s.lookup? name
      let isMissing (emptyToo : Bool) : Bool := value.all fun v => emptyToo && v.isEmpty
      let plain : Action (List Glyph) := do
        if name = ['@'] ∨ (name = ['*'] ∧ ¬ quoted) then
          let each := s.arguments.map (Glyph.ofText (s.separatorsIf split) quoted)
          return (each.intersperse [.gap]).flatten
        else
          let v ← match value with
            | some v => pure v
            | none => unsetValue name
          return Glyph.ofText (s.separatorsIf split) quoted v
      let operandGlyphs : Action (List Glyph) := do
        let gs ← expandParts run split operand fuel
        return if quoted then .mark :: gs else gs
      match use with
      | .value => plain
      | .length =>
        return Glyph.ofText (s.separatorsIf split) quoted (Text.ofNat (value.getD []).length)
      | .orElse e => if isMissing e then operandGlyphs else plain
      | .ifSet e => if isMissing e then return (if quoted then [.mark] else []) else operandGlyphs
      | .orAssign e =>
        if isMissing e then
          let gs ← operandGlyphs
          modify (·.setVariable name (Glyph.text gs))
          return gs
        else plain
      | .orFail e =>
        if isMissing e then
          let t := Glyph.text (← expandParts run false operand fuel)
          let why : Text := if t.isEmpty then "parameter not set" else t
          Action.giveUp 2 (name ++ ": " ++ why)
        else plain
      | .cutFront longest =>
        let ps := Glyph.pattern (← expandParts run false operand fuel)
        return Glyph.ofText (s.separatorsIf split) quoted (cutFront longest ps (value.getD []))
      | .cutBack longest =>
        let ps := Glyph.pattern (← expandParts run false operand fuel)
        return Glyph.ofText (s.separatorsIf split) quoted (cutBack longest ps (value.getD []))

/-- The glyphs of a word. -/
def expandParts (run : Substitution) (split : Bool) (w : Word) : Nat → Action (List Glyph)
  | 0 => throw .endless
  | fuel + 1 =>
    match w with
    | [] => return []
    | p :: ps => do
      let gs ← expandPart run split p fuel
      return gs ++ (← expandParts run split ps fuel)

end

/-- Enough fuel for the words of scripts of a reasonable length. -/
def wordFuel : Nat := 100000

/-- The arguments that words stand for. -/
def expandWords (run : Substitution) (ws : List Word) : Action (List Text) := do
  let fields ← ws.mapM fun w => do return Glyph.fields (← expandParts run true w wordFuel)
  let s ← get
  return fields.flatten.flatMap fun f =>
    if s.options.contains 'f' then [f.text] else f.names s.files

/-- The text that a word stands for where it is not split. -/
def expandWhole (run : Substitution) (w : Word) : Action Text := do
  return Glyph.text (← expandParts run false w wordFuel)

end Shell

end TemplateFill
