import TemplateFill.Shell.Pattern

/-!
# Regular expressions

The two notations of POSIX for regular expressions.  They differ in whether a backslash gives
parentheses, braces and some operators their meaning or takes it from them.  Of the matches at the
leftmost place where there are any, the longest is taken.
-/

namespace TemplateFill

namespace Shell

/-- A regular expression. -/
inductive Regex where
  | piece (p : Pattern.Piece)
  | atStart
  | atEnd
  | empty
  | group (number : Nat) (r : Regex)
  | both (a b : Regex)
  | either (a b : Regex)
  | repeated (least : Nat) (most : Option Nat) (r : Regex)
  deriving Repr, Inhabited

namespace Regex

/-! ### Reading -/

/-- A symbol of an expression. -/
inductive Symbol where
  | piece (p : Pattern.Piece)
  | atStart
  | atEnd
  | opening
  | closing
  | bar
  | times (least : Nat) (most : Option Nat)
  deriving DecidableEq, Repr

/-- The ranges of a named class of characters. -/
def classRanges (name : Text) : List (Char × Char) :=
  match String.ofList name with
  | "alpha" => [('a', 'z'), ('A', 'Z')]
  | "digit" => [('0', '9')]
  | "alnum" => [('a', 'z'), ('A', 'Z'), ('0', '9')]
  | "upper" => [('A', 'Z')]
  | "lower" => [('a', 'z')]
  | "space" => [('\t', '\r'), (' ', ' ')]
  | "blank" => [('\t', '\t'), (' ', ' ')]
  | "punct" => [('!', '/'), (':', '@'), ('[', '\x60'), ('{', '~')]
  | "xdigit" => [('a', 'f'), ('A', 'F'), ('0', '9')]
  | _ => []

/-- The ranges up to a closing bracket, with named classes. -/
def readSet (first : Bool) (s : Text) : Nat → Option (List (Char × Char) × Text)
  | 0 => none
  | fuel + 1 =>
    match s with
    | [] => none
    | '[' :: ':' :: r => do
      let name := r.takeWhile Char.isAlpha
      match r.drop name.length with
      | ':' :: ']' :: r => do
        let (rs, r) ← readSet false r fuel
        some (classRanges name ++ rs, r)
      | _ => none
    | ']' :: r => do
      if first then
        let (rs, r) ← readSet false r fuel
        some ((']', ']') :: rs, r)
      else some ([], r)
    | a :: '-' :: b :: r => do
      if b = ']' then
        let (rs, r) ← readSet false ('-' :: b :: r) fuel
        some ((a, a) :: rs, r)
      else
        let (rs, r) ← readSet false r fuel
        some ((a, b) :: rs, r)
    | a :: r => do
      let (rs, r) ← readSet false r fuel
      some ((a, a) :: rs, r)

/-- The bounds of a repetition, up to the closing brace. -/
def readBounds (extended : Bool) (s : Text) : Option (Symbol × Text) := do
  let a := s.takeWhile Char.isDigit
  let least ← Text.toNat? a
  let s := s.drop a.length
  let (most, s) := match s with
    | ',' :: r =>
      let b := r.takeWhile Char.isDigit
      (Text.toNat? b, r.drop b.length)
    | _ => (some least, s)
  match extended, s with
  | true, '}' :: r | false, '\\' :: '}' :: r => some (.times least most, r)
  | _, _ => none

/-- The symbols of an expression. -/
def symbols (extended first : Bool) (s : Text) : Nat → Option (List Symbol)
  | 0 => none
  | fuel + 1 =>
    let go (t : Symbol) (r : Text) : Option (List Symbol) :=
      (symbols extended (t = .opening || t = .bar) r fuel).map (t :: ·)
    let char (c : Char) (r : Text) := go (.piece (.exactly c)) r
    let operator (c : Char) (r : Text) : Option (List Symbol) :=
      match c with
      | '(' => go .opening r
      | ')' => go .closing r
      | '|' => go .bar r
      | '+' => go (.times 1 none) r
      | '?' => go (.times 0 (some 1)) r
      | '{' => do
        let (t, r) ← readBounds extended r
        go t r
      | c => char c r
    match s with
    | [] => some []
    | '\\' :: c :: r =>
      if c ∈ "()|+?\x7b".toList then (if extended then char c r else operator c r)
      else if c = 'n' then char '\n' r
      else if c = 't' then char '\t' r
      else char c r
    | '.' :: r => go (.piece .any) r
    | '[' :: r => do
      let (negated, inner) := match r with
        | '^' :: t => (true, t)
        | t => (false, t)
      let (rs, rest) ← readSet true inner (inner.length + 1)
      go (.piece (.within negated rs)) rest
    | '*' :: r => if first then char '*' r else go (.times 0 none) r
    | '^' :: r =>
      if first ∨ extended then (symbols extended true r fuel).map (.atStart :: ·) else char '^' r
    | '$' :: r =>
      if r.isEmpty ∨ extended ∨ "\\)".toList.isPrefixOf r then go .atEnd r else char '$' r
    | c :: r => if extended ∧ c ∈ "()|+?\x7b".toList then operator c r else char c r

mutual

/-- The expression at the start of some symbols, the groups of which get numbers from `n` on; the
next number and the symbols behind it. -/
def alternatives (n : Nat) (ts : List Symbol) : Nat → Option (Regex × Nat × List Symbol)
  | 0 => none
  | fuel + 1 => do
    let (a, n, ts) ← row n .empty ts fuel
    match ts with
    | .bar :: ts =>
      let (b, n, ts) ← alternatives n ts fuel
      some (.either a b, n, ts)
    | ts => some (a, n, ts)

/-- The same without alternatives, behind an expression. -/
def row (n : Nat) (before : Regex) (ts : List Symbol) : Nat → Option (Regex × Nat × List Symbol)
  | 0 => none
  | fuel + 1 => do
    let (a, n, ts) ← match ts with
      | .piece p :: ts => some (some (.piece p), n, ts)
      | .atStart :: ts => some (some .atStart, n, ts)
      | .atEnd :: ts => some (some .atEnd, n, ts)
      | .opening :: ts => do
        let (a, m, ts) ← alternatives (n + 1) ts fuel
        match ts with
        | .closing :: ts => some (some (.group n a), m, ts)
        | _ => none
      | _ => some ((none : Option Regex), n, ts)
    match a with
    | none => some (before, n, ts)
    | some a =>
      let (a, ts) := match ts with
        | .times least most :: ts => (.repeated least most a, ts)
        | ts => (a, ts)
      row n (.both before a) ts fuel

end

/-- The expression that a text is in one of the two notations. -/
def read? (extended : Bool) (s : Text) : Option Regex := do
  let ts ← symbols extended true s (s.length + 1)
  match ← alternatives 1 ts (4 * ts.length + 4) with
  | (r, _, []) => some r
  | _ => none

/-! ### Matching -/

/-- A match so far: what is left of the text, and the texts of the groups. -/
structure State where
  rest : Text
  groups : List (Nat × Text)

/-- Every way of matching at a place; `whole` is the text of which the rest is an end. -/
def run (whole : Text) (fold : Bool) (r : Regex) (s : State) : Nat → List State
  | 0 => []
  | fuel + 1 =>
    match r with
    | .empty => [s]
    | .atStart => if s.rest.length = whole.length then [s] else []
    | .atEnd => if s.rest.isEmpty then [s] else []
    | .piece p =>
      match s.rest with
      | c :: t =>
        if p.accepts c || (fold && (p.accepts c.toLower || p.accepts c.toUpper)) then
          [{ s with rest := t }]
        else []
      | [] => []
    | .group n a =>
      (run whole fold a s fuel).map fun t =>
        { t with groups := (n, s.rest.take (s.rest.length - t.rest.length)) :: t.groups }
    | .both a b => (run whole fold a s fuel).flatMap fun t => run whole fold b t fuel
    | .either a b => run whole fold a s fuel ++ run whole fold b s fuel
    | .repeated least most a =>
      let more :=
        if most = some 0 then []
        else
          (run whole fold a s fuel).flatMap fun t =>
            if t.rest.length = s.rest.length then []
            else run whole fold (.repeated (least - 1) (most.map (· - 1)) a) t fuel
      if least = 0 then more ++ [s] else more

/-- A match: the text before it, its own text, the texts of its groups, and the text behind it. -/
structure Match where
  before : Text
  text : Text
  groups : List (Nat × Text)
  after : Text

/-- The longest match at the leftmost place from `n` on. -/
def findFrom (r : Regex) (fold : Bool) (whole : Text) (n : Nat) : Nat → Option Match
  | 0 => none
  | tries + 1 =>
    let here := whole.drop n
    let found := run whole fold r ⟨here, []⟩ (4 * whole.length + 64)
    let best := found.foldl (fun b t =>
      match b with
      | none => some t
      | some b => if t.rest.length < b.rest.length then some t else some b) none
    match best with
    | some t => some ⟨whole.take n, here.take (here.length - t.rest.length), t.groups, t.rest⟩
    | none => if n < whole.length then findFrom r fold whole (n + 1) tries else none

/-- The first match from a place on. -/
def find (r : Regex) (fold : Bool) (whole : Text) (n : Nat) : Option Match :=
  findFrom r fold whole n (whole.length + 1)

/-- The matches from a place on, none of which overlap. -/
def findAll (r : Regex) (fold : Bool) (whole : Text) (n : Nat) : Nat → List Match
  | 0 => []
  | tries + 1 =>
    match r.find fold whole n with
    | none => []
    | some m =>
      let next := m.before.length + m.text.length
      let next := if m.text.isEmpty then next + 1 else next
      m :: (if next ≤ whole.length then r.findAll fold whole next tries else [])

end Regex

end Shell

end TemplateFill
