import TemplateFill.Shell.Syntax

/-!
# Reading shell commands

Each function reads what it is named for at the start of a text and gives the text behind it; it
has no result if the text breaks the rules of the language.  A script is read line by line, because
a line runs before the next one is read.  Every call but those behind a character that has been
read takes from the fuel, of which a few units for each character suffice.
-/

namespace TemplateFill

namespace Shell

/-! ### Characters and names -/

/-- Whether a character can begin a name. -/
def isNameStart (c : Char) : Bool := c.isAlpha || c = '_'

/-- Whether a character can be in a name. -/
def isNameChar (c : Char) : Bool := c.isAlphanum || c = '_'

/-- The name at the start of a text, which may be empty. -/
def readName (s : Text) : Text × Text :=
  if s.head?.any isNameStart then (s.takeWhile isNameChar, s.dropWhile isNameChar) else ([], s)

/-- The variables that the shell itself sets, which have one character. -/
def isSpecialName (c : Char) : Bool := c.isDigit || c ∈ "?$!#@*-".toList

/-- The characters that end a word. -/
def endsWordChar (c : Char) : Bool := c ∈ " \t\n;&|<>()".toList

/-- Skips blanks, comments and joined lines. -/
def skipBlanks : Text → Text
  | '\\' :: '\n' :: r => skipBlanks r
  | c :: r =>
    if c = ' ' ∨ c = '\t' then skipBlanks r
    else if c = '#' then r.dropWhile (· ≠ '\n')
    else c :: r
  | [] => []

/-- Skips blanks, comments and ends of lines. -/
def skipLines (s : Text) : Nat → Text
  | 0 => s
  | fuel + 1 =>
    match skipBlanks s with
    | '\n' :: r => skipLines r fuel
    | r => r

/-- A part in front of a word; neighbouring literals become one. -/
def consPart (p : Part) (w : Word) : Word :=
  match p, w with
  | .literal s q, .literal t q' :: ps => if q = q' then .literal (s ++ t) q :: ps else p :: w
  | _, _ => p :: w

/-- The operator behind the name in a reference in braces. -/
def readUse : Text → Option (Use × Text)
  | ':' :: '-' :: r => some (.orElse true, r)
  | ':' :: '=' :: r => some (.orAssign true, r)
  | ':' :: '?' :: r => some (.orFail true, r)
  | ':' :: '+' :: r => some (.ifSet true, r)
  | '-' :: r => some (.orElse false, r)
  | '=' :: r => some (.orAssign false, r)
  | '?' :: r => some (.orFail false, r)
  | '+' :: r => some (.ifSet false, r)
  | '%' :: '%' :: r => some (.cutBack true, r)
  | '%' :: r => some (.cutBack false, r)
  | '#' :: '#' :: r => some (.cutFront true, r)
  | '#' :: r => some (.cutFront false, r)
  | r => if r.head? = some '}' then some (.value, r) else none

/-- The script between backquotes, in which a backslash protects some characters. -/
def readBackquoted : Text → Option (Text × Text)
  | '\x60' :: r => some ([], r)
  | '\\' :: c :: r =>
    (readBackquoted r).map fun p =>
      (if c = '$' ∨ c = '\x60' ∨ c = '\\' then c :: p.1 else '\\' :: c :: p.1, p.2)
  | c :: r => (readBackquoted r).map fun p => (c :: p.1, p.2)
  | [] => none

/-- Where the parts of a word are read. -/
inductive Setting where
  | word
  | quotes
  /-- The operand of a reference in braces. -/
  | operand (quoted : Bool)
  | arithmetic
  /-- Inside parentheses in an arithmetic expression. -/
  | parentheses
  /-- The text of an input that is in the script itself. -/
  | document
  deriving DecidableEq

/-- Whether parts in a setting are quoted. -/
def Setting.quoted : Setting → Bool
  | .word => false
  | .quotes => true
  | .operand q => q
  | .arithmetic | .parentheses | .document => true

/-- Whether the parts of a word end here. -/
def Setting.ends : Setting → Text → Bool
  | _, [] => true
  | .word, c :: _ => endsWordChar c
  | .quotes, c :: _ => c = '"'
  | .operand _, c :: _ => c = '}'
  | .arithmetic, c :: r => c = ')' && r.head? = some ')'
  | .parentheses, c :: _ => c = ')'
  | .document, _ => false

/-- The reserved words. -/
def reservedWords : List Text :=
  ["if", "then", "elif", "else", "fi", "while", "until", "do", "done", "for", "case", "esac",
    ['{'], ['}'], ['!'], "in"]

/-- The reserved word at the start of a text. -/
def reserved? (s : Text) : Option (Text × Text) :=
  let name := s.takeWhile fun c => !endsWordChar c
  if reservedWords.contains name then some (name, s.drop name.length) else none

/-- Skips a reserved word that has to come here. -/
def expect (name : Text) (s : Text) : Option Text :=
  match reserved? (skipLines s s.length) with
  | some (n, r) => if n = name then some r else none
  | none => none

/-- Whether a list of commands ends here. -/
def endsList (s : Text) : Bool :=
  match s with
  | [] => true
  | ')' :: _ => true
  | ';' :: ';' :: _ => true
  | _ =>
    match reserved? s with
    | some (n, _) =>
      [("then" : Text), "elif", "else", "fi", "do", "done", "esac", ['}']].contains n
    | none => false

/-- The operator of a redirection, with its descriptor. -/
def redirection? (s : Text) : Option (Nat × (Word → Target) × Text) :=
  let ds := s.takeWhile Char.isDigit
  let n := Text.toNat? ds
  match s.drop ds.length with
  | '<' :: '&' :: r => some (n.getD 0, .duplicate, r)
  | '<' :: '<' :: r => some (n.getD 0, .document, r)
  | '<' :: r => some (n.getD 0, .read, r)
  | '>' :: '&' :: r => some (n.getD 1, .duplicate, r)
  | '>' :: '>' :: r => some (n.getD 1, .append, r)
  | '>' :: '|' :: r => some (n.getD 1, .write, r)
  | '>' :: r => some (n.getD 1, .write, r)
  | _ => none

/-- The name of an assignment at the start of a word, and the text behind its equals sign. -/
def assignment? (s : Text) : Option (Text × Text) :=
  match readName s with
  | (name, '=' :: r) => if name.isEmpty then none else some (name, r)
  | _ => none

/-- The text of an input in the script, which is on the lines from the next one to the first one that
is the delimiter, and what is left of the script.  Tabs at the beginning of lines may be dropped. -/
def takeDocument (delimiter : Text) (dropsTabs : Bool) (s : Text) : Text × Text :=
  let here := s.takeWhile (· ≠ '\n')
  let lines := (Text.pieces '\n' (s.drop (here.length + 1))).map fun l =>
    (l, if dropsTabs then l.dropWhile (· = '\t') else l)
  let inside := lines.takeWhile (·.2 ≠ delimiter)
  let closed := inside.length < lines.length
  let inside := if closed ∨ inside.getLast? ≠ some ([], []) then inside else inside.dropLast
  let text := inside.flatMap (·.2 ++ ['\n'])
  let below := ((lines.drop (inside.length + 1)).map Prod.fst)
  (text, if below.isEmpty then here else here ++ '\n' :: Text.join ['\n'] below)

/-- The delimiter that a word is, and whether any of it is quoted. -/
def delimiterOf (w : Word) : Text × Bool :=
  (w.flatMap fun p => match p with | .literal s _ => s | _ => [],
    w.any fun p => match p with | .literal _ q => q | _ => false)

mutual

/-- Reads the parts of a word. -/
def readParts (place : Setting) (s : Text) : Nat → Option (Word × Text)
  | 0 => none
  | fuel + 1 =>
    if place.ends s then some ([], s)
    else do
      let (ps, r) ← readPart place s fuel
      let (w, r) ← readParts place r fuel
      some (ps.foldr consPart w, r)

/-- Reads the next part of a word; quotes may hold several parts, and a joined line holds none. -/
def readPart (place : Setting) (s : Text) : Nat → Option (Word × Text)
  | 0 => none
  | fuel + 1 =>
    let q := place.quoted
    match s with
    | [] => none
    | '\\' :: '\n' :: r => some ([], r)
    | '\\' :: c :: r =>
      let protects := c ∈ "$\x60\\".toList ∨ (c = '"' ∧ place ≠ .document)
      if ¬ q ∨ protects ∨ (c = '}' ∧ place = .operand true) then
        some ([.literal [c] true], r)
      else some ([.literal ['\\', c] true], r)
    | '\'' :: r =>
      if q then some ([.literal ['\''] true], r)
      else
        let inner := r.takeWhile (· ≠ '\'')
        match r.drop inner.length with
        | '\'' :: r => some ([.literal inner true], r)
        | _ => none
    | '"' :: r =>
      if place = .arithmetic ∨ place = .parentheses then some ([], r)
      else if place = .document then some ([.literal ['"'] true], r)
      else do
        let (w, r) ← readParts .quotes r fuel
        match r with
        | '"' :: r => some (if w.isEmpty then [.literal [] true] else w, r)
        | _ => none
    | '\x60' :: r => do
      let (script, r) ← readBackquoted r
      some ([.output script q], r)
    | '$' :: '(' :: '(' :: r => do
      let (w, r) ← readParts .arithmetic r fuel
      match r with
      | ')' :: ')' :: r => some ([.arithmetic w q], r)
      | _ => none
    | '$' :: '(' :: r => do
      let (_, rest) ← readList r fuel
      match skipLines rest rest.length with
      | ')' :: after => some ([.output (r.take (r.length - after.length - 1)) q], after)
      | _ => none
    | '$' :: '{' :: r => do
      let (p, r) ← readBraced q r fuel
      some ([p], r)
    | '$' :: c :: r =>
      if isNameStart c then
        let (name, r) := readName (c :: r)
        some ([.reference name .value [] q], r)
      else if isSpecialName c then some ([.reference [c] .value [] q], r)
      else some ([.literal ['$'] q], c :: r)
    | c :: r =>
      if c = '(' ∧ (place = .arithmetic ∨ place = .parentheses) then do
        let (w, r) ← readParts .parentheses r fuel
        match r with
        | ')' :: r => some (.literal ['('] q :: w ++ [.literal [')'] q], r)
        | _ => none
      else some ([.literal [c] q], r)

/-- Reads a reference behind its opening brace. -/
def readBraced (q : Bool) (s : Text) : Nat → Option (Part × Text)
  | 0 => none
  | fuel + 1 =>
    let nameAt (s : Text) : Text × Text :=
      match s with
      | c :: r => if isSpecialName c && !isNameStart c then ([c], r) else readName s
      | [] => ([], [])
    match s with
    | '#' :: '}' :: r => some (.reference ['#'] .value [] q, r)
    | '#' :: r =>
      match nameAt r with
      | (name, '}' :: r) => if name.isEmpty then none else some (.reference name .length [] q, r)
      | _ => none
    | s => do
      let (name, r) := nameAt s
      if name.isEmpty then none
      let (use, r) ← readUse r
      let (operand, r) ← readParts (.operand q) r fuel
      match r with
      | '}' :: r => some (.reference name use operand q, r)
      | _ => none

/-- Reads a word, which is not empty. -/
def readWord (s : Text) : Nat → Option (Word × Text)
  | 0 => none
  | fuel + 1 => do
    let (w, r) ← readParts .word s fuel
    if r.length = s.length then none else some (w, r)

/-- Reads what stands behind the operator of a redirection. -/
def readTarget (target : Word → Target) (s : Text) : Nat → Option (Target × Text)
  | 0 => none
  | fuel + 1 => do
    let (dropsTabs, s) := match target [], s with
      | .document _, '-' :: r => (true, r)
      | _, s => (false, s)
    let (w, r) ← readWord (skipBlanks s) fuel
    match target w with
    | .document w => do
      let (delimiter, quoted) := delimiterOf w
      let (text, r) := takeDocument delimiter dropsTabs r
      if quoted then some (.document [.literal text true], r)
      else
        let (w, _) ← readParts .document text fuel
        some (.document w, r)
    | t => some (t, r)

/-- Reads redirections. -/
def readRedirections (s : Text) : Nat → Option (List Redirection × Text)
  | 0 => none
  | fuel + 1 =>
    let s := skipBlanks s
    match redirection? s with
    | none => some ([], s)
    | some (n, target, r) => do
      let (t, r) ← readTarget target r fuel
      let (rs, r) ← readRedirections r fuel
      some (⟨n, t⟩ :: rs, r)

/-- Reads the words, assignments and redirections of a simple command. -/
def readSimple (s : Text) (begun : Bool) :
    Nat → Option (List (Text × Word) × List Word × List Redirection × Text)
  | 0 => none
  | fuel + 1 =>
    let s := skipBlanks s
    match redirection? s with
    | some (n, target, r) => do
      let (t, r) ← readTarget target r fuel
      let (as, ws, rs, r) ← readSimple r begun fuel
      some (as, ws, ⟨n, t⟩ :: rs, r)
    | none =>
      if s.head?.all endsWordChar then some ([], [], [], s)
      else
        match if begun then none else assignment? s with
        | some (name, r) => do
          let (w, r) ← readParts .word r fuel
          let (as, ws, rs, r) ← readSimple r begun fuel
          some ((name, w) :: as, ws, rs, r)
        | none => do
          let (w, r) ← readWord s fuel
          let (as, ws, rs, r) ← readSimple r true fuel
          some (as, w :: ws, rs, r)

/-- Reads the words behind `in`. -/
def readWords (s : Text) : Nat → Option (List Word × Text)
  | 0 => none
  | fuel + 1 =>
    let s := skipBlanks s
    if s.head?.all endsWordChar then some ([], s)
    else do
      let (w, r) ← readWord s fuel
      let (ws, r) ← readWords r fuel
      some (w :: ws, r)

/-- Reads the patterns of a branch, up to the closing parenthesis. -/
def readPatterns (s : Text) : Nat → Option (List Word × Text)
  | 0 => none
  | fuel + 1 => do
    let (w, r) ← readWord (skipBlanks s) fuel
    match skipBlanks r with
    | ')' :: r => some ([w], r)
    | '|' :: r => do
      let (ws, r) ← readPatterns r fuel
      some (w :: ws, r)
    | _ => none

/-- Reads the branches of a selection. -/
def readBranches (s : Text) : Nat → Option (List (List Word × Command) × Text)
  | 0 => none
  | fuel + 1 =>
    let s := skipLines s s.length
    match reserved? s with
    | some (['e', 's', 'a', 'c'], r) => some ([], r)
    | _ => do
      let s := match s with | '(' :: r => r | s => s
      let (ws, r) ← readPatterns s fuel
      let (body, r) ← readList r fuel
      match skipLines r r.length with
      | ';' :: ';' :: r => do
        let (bs, r) ← readBranches r fuel
        some ((ws, body) :: bs, r)
      | r => do
        let r ← expect "esac" r
        some ([(ws, body)], r)

/-- Reads the branches behind the body of a condition, up to its end. -/
def readElse (s : Text) : Nat → Option (Command × Text)
  | 0 => none
  | fuel + 1 => do
    match ← reserved? (skipLines s s.length) with
    | (['f', 'i'], r) => some (.list [], r)
    | (['e', 'l', 's', 'e'], r) => do
      let (no, r) ← readList r fuel
      some (no, ← expect "fi" r)
    | (['e', 'l', 'i', 'f'], r) => do
      let (test, r) ← readList r fuel
      let (yes, r) ← readList (← expect "then" r) fuel
      let (no, r) ← readElse r fuel
      some (.choice test yes no [], r)
    | _ => none

/-- Reads the body of a loop. -/
def readBody (s : Text) : Nat → Option (Command × Text)
  | 0 => none
  | fuel + 1 => do
    let (body, r) ← readList (← expect "do" s) fuel
    some (body, ← expect "done" r)

/-- Reads a command that begins with a reserved word. -/
def readReserved (name : Text) (s : Text) : Nat → Option (Command × Text)
  | 0 => none
  | fuel + 1 =>
    match String.ofList name with
    | "\x7b" => do
      let (body, r) ← readList s fuel
      let (rs, r) ← readRedirections (← expect ['}'] r) fuel
      some (.group body rs, r)
    | "if" => do
      let (test, r) ← readList s fuel
      let (yes, r) ← readList (← expect "then" r) fuel
      let (no, r) ← readElse r fuel
      let (rs, r) ← readRedirections r fuel
      some (.choice test yes no rs, r)
    | "while" | "until" => do
      let (test, r) ← readList s fuel
      let (body, r) ← readBody r fuel
      let (rs, r) ← readRedirections r fuel
      some (.loop (name = "while".toList) test body rs, r)
    | "for" => do
      let (item, r) := readName (skipBlanks s)
      if item.isEmpty then none
      let r := skipLines r r.length
      let (words, r) ← match reserved? r with
        | some (['i', 'n'], r) => do
          let (ws, r) ← readWords r fuel
          some (some ws, r)
        | _ => some (none, r)
      let r := match skipBlanks r with | ';' :: r => r | r => r
      let (body, r) ← readBody r fuel
      let (rs, r) ← readRedirections r fuel
      some (.each item words body rs, r)
    | "case" => do
      let (w, r) ← readWord (skipBlanks s) fuel
      let (bs, r) ← readBranches (← expect "in" r) fuel
      let (rs, r) ← readRedirections r fuel
      some (.select w bs rs, r)
    | _ => none

/-- Reads a command without operators. -/
def readCommand (s : Text) : Nat → Option (Command × Text)
  | 0 => none
  | fuel + 1 =>
    match s with
    | '(' :: r => do
      let (body, r) ← readList r fuel
      match skipLines r r.length with
      | ')' :: r => do
        let (rs, r) ← readRedirections r fuel
        some (.subshell body rs, r)
      | _ => none
    | _ =>
      match reserved? s with
      | some (name, r) => readReserved name r fuel
      | none =>
        match readName s with
        | (c :: name, '(' :: r) =>
          match skipBlanks r with
          | ')' :: r => do
            let (body, r) ← readCommand (skipLines r r.length) fuel
            some (.define (c :: name) body, r)
          | _ => none
        | _ => do
          let (as, ws, rs, r) ← readSimple s false fuel
          if as.isEmpty ∧ ws.isEmpty ∧ rs.isEmpty then none
          else some (.simple as ws rs, r)

/-- Reads commands with bars between them. -/
def readStages (s : Text) : Nat → Option (List Command × Text)
  | 0 => none
  | fuel + 1 => do
    let (c, r) ← readCommand (skipBlanks s) fuel
    match skipBlanks r with
    | '|' :: '|' :: _ => some ([c], skipBlanks r)
    | '|' :: r => do
      let (cs, r) ← readStages (skipLines r r.length) fuel
      some (c :: cs, r)
    | r => some ([c], r)

/-- Reads a pipeline. -/
def readPipeline (s : Text) : Nat → Option (Command × Text)
  | 0 => none
  | fuel + 1 => do
    let (negated, s) := match reserved? (skipBlanks s) with
      | some (['!'], r) => (true, r)
      | _ => (false, s)
    match ← readStages s fuel with
    | ([c], r) => some (if negated then .pipeline true [c] else c, r)
    | (cs, r) => some (.pipeline negated cs, r)

/-- Reads the pipelines that are joined to one that has been read. -/
def readJoined (c : Command) (s : Text) : Nat → Option (Command × Text)
  | 0 => none
  | fuel + 1 =>
    match skipBlanks s with
    | '&' :: '&' :: r => do
      let (d, r) ← readPipeline (skipLines r r.length) fuel
      readJoined (.and c d) r fuel
    | '|' :: '|' :: r => do
      let (d, r) ← readPipeline (skipLines r r.length) fuel
      readJoined (.or c d) r fuel
    | r => some (c, r)

/-- Reads the items of a list; `oneLine` says that it ends with its line. -/
def readItems (oneLine : Bool) (s : Text) : Nat → Option (List (Command × Bool) × Text)
  | 0 => none
  | fuel + 1 =>
    let s := if oneLine then skipBlanks s else skipLines s s.length
    if endsList s ∨ s.head? = some '\n' then some ([], s)
    else do
      let (c, r) ← readPipeline s fuel
      let (c, r) ← readJoined c r fuel
      match skipBlanks r with
      | ';' :: ';' :: r => some ([(c, false)], ';' :: ';' :: r)
      | ';' :: r => do
        let (cs, r) ← readItems oneLine r fuel
        some ((c, false) :: cs, r)
      | '&' :: r => do
        let (cs, r) ← readItems oneLine r fuel
        some ((c, true) :: cs, r)
      | '\n' :: r =>
        if oneLine then some ([(c, false)], '\n' :: r)
        else do
          let (cs, r) ← readItems oneLine r fuel
          some ((c, false) :: cs, r)
      | r => if endsList r then some ([(c, false)], r) else none

/-- Reads a list of commands. -/
def readList (s : Text) : Nat → Option (Command × Text)
  | 0 => none
  | fuel + 1 => (readItems false s fuel).map fun p => (.list p.1, p.2)

end

/-- A script: the commands on its lines, up to the first line that breaks the rules. -/
structure Script where
  lines : List Command
  isBroken : Bool
  deriving Repr

/-- Reads a script. -/
def readLines (s : Text) : Nat → Script
  | 0 => ⟨[], true⟩
  | fuel + 1 =>
    let s := skipLines s s.length
    if s.isEmpty then ⟨[], false⟩
    else match readItems true s (20 * s.length + 20) with
      | none => ⟨[], true⟩
      | some (cs, []) => ⟨[.list cs], false⟩
      | some (cs, '\n' :: r) =>
        let rest := readLines r fuel
        { rest with lines := .list cs :: rest.lines }
      | some _ => ⟨[], true⟩

/-- The script that a text holds. -/
def Script.read (s : Text) : Script := readLines s (s.length + 1)

end Shell

end TemplateFill
