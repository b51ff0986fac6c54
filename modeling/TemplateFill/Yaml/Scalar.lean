import TemplateFill.Json.Token
import TemplateFill.Yaml.Cursor

/-!
# Scalars as they are written

A scalar is written plain, between single or double quotes, or as a block of lines after `|` or
`>`.  A plain or quoted scalar may go over several lines, which are then folded: a single line's
end stands for a blank, and of several the first stands for nothing.  The reading functions take
the place where the scalar starts, and give its text and the place behind it.
-/

namespace TemplateFill

namespace Yaml

/-- How a scalar is written. -/
inductive Style where
  | plain
  | singleQuoted
  | doubleQuoted
  | literal
  | folded
  deriving DecidableEq, Repr

/-! ### Blanks and line ends inside a scalar -/

/-- The spaces, tabs and line ends between two pieces of a scalar. -/
structure Gap where
  /-- The spaces and tabs before the first line's end. -/
  spaces : Text
  /-- The first line's end, if there is one. -/
  first : Option Text
  /-- The line ends after the first. -/
  more : Text

/-- No blanks. -/
def Gap.none : Gap := ⟨[], Option.none, []⟩

/-- What a gap stands for. -/
def Gap.folded (g : Gap) : Text :=
  match g.first with
  | Option.none => g.spaces
  | some b => if b = ['\n'] then (if g.more.isEmpty then [' '] else g.more) else b ++ g.more

/-- The gap at a place, and the place behind it.  A tab on a new line to the left of `indent` is an
error. -/
def readGap (indent : Nat) (g : Gap) (c : Cursor) : Nat → Option (Gap × Cursor)
  | 0 => some (g, c)
  | fuel + 1 =>
    match c.peek? with
    | Option.none => some (g, c)
    | some x =>
      if isWhite x then
        match g.first with
        | Option.none => readGap indent { g with spaces := g.spaces ++ [x] } (c.skip 1) fuel
        | some _ =>
          if x = '\t' ∧ c.column < indent then Option.none
          else readGap indent g (c.skip 1) fuel
      else if isBreak x then
        let (b, c) := c.readBreak
        match g.first with
        | Option.none => readGap indent { g with first := some b } c fuel
        | some _ => readGap indent { g with more := g.more ++ b } c fuel
      else some (g, c)

/-! ### Plain scalars -/

/-- The characters that end a plain scalar inside brackets or braces. -/
def endsFlowPlain (c : Char) : Bool := c = ',' || c = '[' || c = ']' || c = '{' || c = '}'

/-- The characters of a plain scalar up to a blank, a line's end or the end of the scalar. -/
def plainRun (flow : Bool) : Text → Option Text
  | [] => some []
  | c :: r =>
    if isWhite c || isBreak c then some []
    else if flow && c = ':' && r.head?.any (fun x => x = '?' || endsFlowPlain x) then none
    else if (c = ':' && endsWord r) || (flow && endsFlowPlain c) then some []
    else (plainRun flow r).map (c :: ·)

/-- The rest of a plain scalar after `done` and a gap: its text, whether the place behind it is on
a new line, and that place. -/
def plainFrom (flow : Bool) (indent : Nat) (done : Text) (g : Gap) (c : Cursor) :
    Nat → Option (Text × Bool × Cursor)
  | 0 => none
  | fuel + 1 =>
    if c.atDocumentMark ∨ c.peek? = some '#' then some (done, g.first.isSome, c)
    else do
      let run ← plainRun flow c.rest
      if run.isEmpty then some (done, g.first.isSome, c)
      else
        let done := done ++ g.folded ++ run
        let c := c.skip run.length
        if c.rest.isEmpty ∨ ¬ endsWord c.rest then some (done, false, c)
        else
          let (g, c) ← readGap indent Gap.none c (c.rest.length + 1)
          if ¬ flow ∧ c.column < indent then some (done, g.first.isSome, c)
          else plainFrom flow indent done g c fuel

/-- The plain scalar at a place. -/
def readPlain (flow : Bool) (indent : Nat) (c : Cursor) : Option (Text × Bool × Cursor) :=
  plainFrom flow indent [] Gap.none c (c.rest.length + 1)

/-! ### Quoted scalars -/

/-- What a backslash and a character stand for. -/
def unescape? : Char → Option Char
  | '0' => some '\x00'
  | 'a' => some '\x07'
  | 'b' => some '\x08'
  | 't' | '\t' => some '\t'
  | 'n' => some '\n'
  | 'v' => some '\x0b'
  | 'f' => some '\x0c'
  | 'r' => some '\r'
  | 'e' => some '\x1b'
  | ' ' => some ' '
  | '"' => some '"'
  | '/' => some '/'
  | '\\' => some '\\'
  | 'N' => some '\x85'
  | '_' => some '\xa0'
  | 'L' => some '\u2028'
  | 'P' => some '\u2029'
  | _ => none

/-- The number of hexadecimal digits after a backslash and a letter. -/
def escapeWidth? : Char → Option Nat
  | 'x' => some 2
  | 'u' => some 4
  | 'U' => some 8
  | _ => none

/-- The character with a number, if there is one. -/
def charOf? (n : Nat) : Option Char := if n.isValidChar then some (Char.ofNat n) else none

/-- The value of hexadecimal digits. -/
def hexValue? (ds : Text) : Option Nat :=
  ds.foldlM (fun n d => (Json.hexDigit? d).map (16 * n + ·)) 0

/-- What a stretch of a quoted scalar without unescaped blanks ends with. -/
inductive StretchEnd where
  | quote
  | gap
  /-- A backslash at the end of a line. -/
  | joinedLine

/-- The characters of a scalar in single quotes up to a blank, a line's end or the closing quote. -/
def singleRun (done : Text) (c : Cursor) : Nat → Option (Text × StretchEnd × Cursor)
  | 0 => none
  | fuel + 1 =>
    match c.rest with
    | '\'' :: '\'' :: _ => singleRun (done ++ ['\'']) (c.skip 2) fuel
    | '\'' :: _ => some (done, .quote, c)
    | [] => some (done, .gap, c)
    | x :: _ =>
      if isWhite x || isBreak x then some (done, .gap, c)
      else singleRun (done ++ [x]) (c.skip 1) fuel

/-- The characters of a scalar in double quotes up to a blank, a line's end or the closing quote. -/
def doubleRun (done : Text) (c : Cursor) : Nat → Option (Text × StretchEnd × Cursor)
  | 0 => none
  | fuel + 1 =>
    match c.rest with
    | '"' :: _ => some (done, .quote, c)
    | '\\' :: x :: r =>
      if isBreak x then some (done, .joinedLine, (c.skip 1).skipBreak)
      else
        match escapeWidth? x with
        | some w =>
          if r.length < w then none
          else do
            let n ← hexValue? (r.take w)
            doubleRun (done ++ [← charOf? n]) (c.skip (2 + w)) fuel
        | none => do doubleRun (done ++ [← unescape? x]) (c.skip 2) fuel
    | ['\\'] => none
    | [] => some (done, .gap, c)
    | x :: _ =>
      if isWhite x || isBreak x then some (done, .gap, c)
      else doubleRun (done ++ [x]) (c.skip 1) fuel

/-- The rest of a quoted scalar after `done`. -/
def quotedFrom (run : Text → Cursor → Nat → Option (Text × StretchEnd × Cursor)) (done : Text)
    (c : Cursor) : Nat → Option (Text × Cursor)
  | 0 => none
  | fuel + 1 =>
    if c.atDocumentMark ∨ c.rest.isEmpty then none
    else do
      let (done, stretchEnd, c) ← run done c (c.rest.length + 1)
      match stretchEnd with
      | .quote => some (done, c.skip 1)
      | .gap =>
        let (g, c) ← readGap 0 Gap.none c (c.rest.length + 1)
        quotedFrom run (done ++ g.folded) c fuel
      | .joinedLine =>
        let (g, c) ← readGap 0 { Gap.none with first := some [] } c (c.rest.length + 1)
        quotedFrom run (done ++ g.folded) c fuel

/-- The scalar in single quotes at a place. -/
def readSingleQuoted (c : Cursor) : Option (Text × Cursor) :=
  quotedFrom singleRun [] (c.skip 1) (c.rest.length + 1)

/-- The scalar in double quotes at a place. -/
def readDoubleQuoted (c : Cursor) : Option (Text × Cursor) :=
  quotedFrom doubleRun [] (c.skip 1) (c.rest.length + 1)

/-! ### Block scalars -/

/-- What becomes of the line ends at the end of a block scalar. -/
inductive Chomping where
  | strip
  | clip
  | keep
  deriving DecidableEq, Repr

/-- The chomping mark at the start of a text. -/
def readChomping : Text → Option Chomping
  | '+' :: _ => some .keep
  | '-' :: _ => some .strip
  | _ => none

/-- The digit for the indentation at the start of a text; zero is an error. -/
def readIncrement : Text → Option (Option Nat)
  | c :: _ =>
    if c = '0' then none
    else if c.isDigit then some (some (c.toNat - '0'.toNat))
    else some none
  | [] => some none

/-- The marks after the `|` or `>` of a block scalar, in either order. -/
def readBlockHeader (c : Cursor) : Option (Chomping × Option Nat × Cursor) :=
  match readChomping c.rest with
  | some ch => do
    let c := c.skip 1
    match ← readIncrement c.rest with
    | some n => some (ch, some n, c.skip 1)
    | none => some (ch, none, c)
  | none => do
    match ← readIncrement c.rest with
    | some n =>
      let c := c.skip 1
      match readChomping c.rest with
      | some ch => some (ch, some n, c.skip 1)
      | none => some (.clip, some n, c)
    | none => some (.clip, none, c)

/-- The empty lines at a place: their line ends, the greatest column in them, and the place behind
them and behind the indentation of the next line.  The indentation is not yet known if `indent` is
zero. -/
def readEmptyLines (indent deepest : Nat) (done : Text) (c : Cursor) :
    Nat → Option (Text × Nat × Cursor)
  | 0 => none
  | fuel + 1 =>
    let spaces := (c.rest.takeWhile (· = ' ')).length
    let c := c.skip (if indent = 0 then spaces else min spaces (indent - c.column))
    let deepest := max deepest c.column
    if (indent = 0 ∨ c.column < indent) ∧ c.peek? = some '\t' then none
    else if c.peek?.any isBreak then
      let (b, c) := c.readBreak
      readEmptyLines indent deepest (done ++ b) c fuel
    else some (done, deepest, c)

/-- The lines of a block scalar after `done`, the line's end `lead`, and the empty lines `more`:
all of these with what follows. -/
def blockLines (literal : Bool) (indent : Nat) (done lead more : Text) (afterBlank : Bool)
    (c : Cursor) : Nat → Option (Text × Text × Text × Cursor)
  | 0 => none
  | fuel + 1 =>
    if c.column ≠ indent ∨ c.rest.isEmpty then some (done, lead, more, c)
    else do
      let blank := c.peek?.any isWhite
      let joint : Text :=
        if ¬ literal ∧ lead = ['\n'] ∧ ¬ afterBlank ∧ ¬ blank then
          (if more.isEmpty then [' '] else [])
        else lead
      let line := c.rest.takeWhile fun x => ¬ isBreak x
      let (lead, c) := (c.skip line.length).readBreak
      let (next, _, c) ← readEmptyLines indent 0 [] c (c.rest.length + 1)
      blockLines literal indent (done ++ joint ++ more ++ line) lead next blank c fuel

/-- The block scalar whose `|` or `>` is at a place inside a block with an indentation. -/
def readBlock (literal : Bool) (parent : Int) (c : Cursor) : Option (Text × Cursor) := do
  let (chomping, increment, c) ← readBlockHeader (c.skip 1)
  let c := c.skipWhile isWhite
  let c := if c.peek? = some '#' then c.skipWhile fun x => ¬ isBreak x else c
  if ¬ endsLine c.rest then none
  let c := c.skipBreak
  let given : Nat := match increment with
    | some n => if 0 ≤ parent then parent.toNat + n else n
    | none => 0
  let (more, deepest, c) ← readEmptyLines given 0 [] c (c.rest.length + 1)
  let indent := if given = 0 then max (max deepest (parent + 1).toNat) 1 else given
  let (done, lead, more, c) ←
    blockLines literal indent [] [] more false c (c.rest.length + 1)
  match chomping with
  | .strip => some (done, c)
  | .clip => some (done ++ lead, c)
  | .keep => some (done ++ lead ++ more, c)

end Yaml

end TemplateFill
