import TemplateFill.Text.Utf8
import TemplateFill.Yaml.Scalar

/-!
# The tokens of YAML

A YAML text is a row of tokens.  Blocks are marked by indentation alone, so the tokens that begin
and end them stand for no characters.  Neither does the token for a mapping's key: that something
was a key shows only when the colon after it is read, and the token is then put in where the key
began.  A place where this may still happen is a *possible key*; it stops being one at the end of
its line and after 1024 characters.
-/

namespace TemplateFill

namespace Yaml

/-- One token. -/
inductive Token where
  | version (major minor : Nat)
  | tagDirective (handle leader : Text)
  | documentStart
  | documentEnd
  | blockSequence
  | blockMapping
  | blockEnd
  | openSequence
  | closeSequence
  | openMapping
  | closeMapping
  | blockItem
  | comma
  | key
  | value
  | alias (name : Text)
  | anchor (name : Text)
  | tag (handle suffix : Text)
  | scalar (text : Text) (style : Style)
  deriving DecidableEq, Repr

/-! ### Directives, anchors and tags -/

/-- The number at the start of a text, of at most nine digits. -/
def readVersionNumber (s : Text) : Option (Nat × Text) :=
  let ds := s.takeWhile Char.isDigit
  if ds.isEmpty ∨ 9 < ds.length then none
  else some (Nat.ofDigitChars 10 ds 0, s.drop ds.length)

/-- A tag's handle at the start of a text: exclamation marks with a name between them.  The second
mark may be missing unless `closed` is asked for; then only a single mark may stand alone. -/
def readHandle (closed : Bool) (s : Text) : Option (Text × Text) :=
  match s with
  | '!' :: r =>
    let name := r.takeWhile isWordChar
    match r.drop name.length with
    | '!' :: r => some ('!' :: name ++ ['!'], r)
    | r => if closed ∧ ¬ name.isEmpty then none else some ('!' :: name, r)
  | _ => none

/-- The characters of a tag besides escapes. -/
def isTagChar (verbatim : Bool) (c : Char) : Bool :=
  isWordChar c || c ∈ ";/?:@&=+$.!~*'()".toList || (verbatim && c ∈ ",[]".toList)

/-- The bytes of the escapes at the start of a text, and the text behind them. -/
def readTagEscapes : Text → Option (List UInt8 × Text)
  | '%' :: a :: b :: r => do
    let n := 16 * (← Json.hexDigit? a) + (← Json.hexDigit? b)
    let (bytes, rest) ← readTagEscapes r
    some (n.toUInt8 :: bytes, rest)
  | '%' :: _ => none
  | s => some ([], s)

/-- The characters of a tag at the start of a text. -/
def readTagChars (verbatim : Bool) (done : Text) (s : Text) : Nat → Option (Text × Text)
  | 0 => none
  | fuel + 1 =>
    match s with
    | '%' :: _ => do
      let (bytes, r) ← readTagEscapes s
      readTagChars verbatim (done ++ (← Utf8.decode? bytes)) r fuel
    | c :: r =>
      if isTagChar verbatim c then readTagChars verbatim (done ++ [c]) r fuel else some (done, c :: r)
    | [] => some (done, [])

/-- The characters of a tag, of which there must be some. -/
def readTagText (verbatim : Bool) (s : Text) : Option (Text × Text) := do
  let (t, r) ← readTagChars verbatim [] s (s.length + 1)
  if t.isEmpty then none else some (t, r)

/-- The tag at the start of a text. -/
def readTag (flow : Bool) (s : Text) : Option (Token × Text) := do
  let (handle, suffix, r) ← match s with
    | '!' :: '<' :: r => do
      let (t, r) ← readTagText true r
      match r with
      | '>' :: r => some ([], t, r)
      | _ => none
    | _ => do
      let (h, r) ← readHandle false s
      if 1 < h.length ∧ h.getLast? = some '!' then
        let (t, r) ← readTagText false r
        some (h, t, r)
      else
        let (t, r) ← readTagChars false h.tail r (r.length + 1)
        some (if t.isEmpty then ([], ['!'], r) else (['!'], t, r))
  if endsWord r ∨ (flow ∧ r.head? = some ',') then some (.tag handle suffix, r) else none

/-- The name of an anchor or alias at the start of a text. -/
def readAnchorName (s : Text) : Option (Text × Text) :=
  let name := s.takeWhile isWordChar
  let r := s.drop name.length
  if name.isEmpty then none
  else if endsWord r ∨ r.head?.any (· ∈ "?:,]\x7d%@\x60".toList) then some (name, r)
  else none

/-- The directive at the start of a text, after its percent sign. -/
def readDirective (s : Text) : Option (Token × Text) := do
  let name := s.takeWhile isWordChar
  let r := s.drop name.length
  if ¬ endsWord r then none
  let r := r.dropWhile isWhite
  let (t, r) ←
    if name = "YAML".toList then do
      let (major, r) ← readVersionNumber r
      match r with
      | '.' :: r => do
        let (minor, r) ← readVersionNumber r
        some (Token.version major minor, r)
      | _ => none
    else if name = "TAG".toList then do
      let (handle, r) ← readHandle true r
      if ¬ r.head?.any isWhite then none
      let (leader, r) ← readTagText true (r.dropWhile isWhite)
      if ¬ endsWord r then none
      some (.tagDirective handle leader, r)
    else none
  let r := r.dropWhile isWhite
  let r := if r.head? = some '#' then r.dropWhile fun x => ¬ isBreak x else r
  if endsLine r then some (t, r) else none

/-! ### Reading all tokens -/

/-- A place where a key may have begun. -/
structure PossibleKey where
  /-- Nothing but a key may stand there. -/
  required : Bool
  /-- The number of tokens before it. -/
  position : Nat
  line : Nat
  column : Nat
  index : Nat
  deriving Repr

/-- What has been read, and where reading goes on. -/
structure Reading where
  cursor : Cursor
  tokens : Array Token
  /-- The column of the innermost block; it is negative outside all blocks. -/
  indent : Int
  /-- The columns of the blocks around it. -/
  outer : List Int
  /-- Whether a key may begin at the next token. -/
  keyAllowed : Bool
  /-- The possible key of each open bracket or brace, the innermost first, and that of the blocks
  around them all. -/
  keys : List (Option PossibleKey)

namespace Reading

/-- The start of a text. -/
def start (s : Text) : Reading := ⟨.start s, #[], -1, [], true, [none]⟩

/-- Whether reading is inside brackets or braces. -/
def inFlow (r : Reading) : Bool := 1 < r.keys.length

/-- One more token. -/
def push (r : Reading) (t : Token) : Reading := { r with tokens := r.tokens.push t }

/-- One more token, of `n` characters. -/
def pushSkip (r : Reading) (t : Token) (n : Nat) : Reading :=
  { r.push t with cursor := r.cursor.skip n }

/-- One more token, read up to a place. -/
def pushTo (r : Reading) (t : Token) (c : Cursor) : Reading := { r.push t with cursor := c }

/-- Sets whether a key may begin at the next token. -/
def allowKey (r : Reading) (b : Bool) : Reading := { r with keyAllowed := b }

/-- The place can no longer be a key; it is an error if it had to be one. -/
def dropKey (r : Reading) : Option Reading :=
  match r.keys with
  | some k :: ks => if k.required then none else some { r with keys := none :: ks }
  | _ => some r

/-- Notes that a key may begin here. -/
def saveKey (r : Reading) : Option Reading :=
  if ¬ r.keyAllowed then some r
  else do
    let r ← r.dropKey
    let c := r.cursor
    let k : PossibleKey :=
      ⟨¬ r.inFlow ∧ r.indent = c.column, r.tokens.size, c.line, c.column, c.index⟩
    some { r with keys := some k :: r.keys.tail }

/-- The possible keys that are on another line, or too far away, are so no longer. -/
def dropStaleKeys (r : Reading) : Option Reading := do
  let keys ← r.keys.mapM fun
    | none => some none
    | some k =>
      if k.line < r.cursor.line ∨ k.index + 1024 < r.cursor.index then
        (if k.required then none else some none)
      else some (some k)
  some { r with keys := keys }

/-- The blocks that are indented deeper than a column end. -/
def closeBlocks (column : Int) (r : Reading) : Reading :=
  if r.inFlow then r else go r.indent r.outer r
where
  /-- Ends the innermost block, and the blocks around it as far as they are deeper. -/
  go (indent : Int) (outer : List Int) (r : Reading) : Reading :=
    if indent ≤ column then { r with indent := indent, outer := outer }
    else match outer with
      | [] => { r.push .blockEnd with indent := -1, outer := [] }
      | i :: is => go i is (r.push .blockEnd)

/-- A block begins at a column, if it is deeper than the innermost one; its token is put in at a
position. -/
def openBlock (r : Reading) (column : Nat) (position : Nat) (t : Token) : Reading :=
  if r.inFlow ∨ (column : Int) ≤ r.indent then r
  else { r with
    indent := column, outer := r.indent :: r.outer
    tokens := (r.tokens.toList.insertIdx position t).toArray }

/-- Skips blanks, comments and line ends before a token. -/
def skipToToken (r : Reading) : Nat → Reading
  | 0 => r
  | fuel + 1 =>
    let tabs := r.inFlow || !r.keyAllowed
    let c := r.cursor.skipWhile fun x => x = ' ' || (tabs && x = '\t')
    let c := if c.peek? = some '#' then c.skipWhile fun x => ¬ isBreak x else c
    if c.peek?.any isBreak then
      { r with cursor := c.skipBreak, keyAllowed := r.keyAllowed || !r.inFlow }.skipToToken fuel
    else { r with cursor := c }

/-- Reads a colon that separates a key from its value. -/
def readValueMark (r : Reading) : Option Reading :=
  match r.keys with
  | some k :: ks =>
    let r := { r with
      keys := none :: ks
      tokens := (r.tokens.toList.insertIdx k.position .key).toArray }
    some (((r.openBlock k.column k.position .blockMapping).allowKey false).pushSkip .value 1)
  | _ =>
    if ¬ r.inFlow ∧ ¬ r.keyAllowed then none
    else
      let r := r.openBlock r.cursor.column r.tokens.size .blockMapping
      some ((r.allowKey (!r.inFlow)).pushSkip .value 1)

/-- Reads a dash that begins an item of a block sequence. -/
def readItemMark (r : Reading) : Option Reading :=
  if ¬ r.inFlow ∧ ¬ r.keyAllowed then none
  else do
    let r := r.openBlock r.cursor.column r.tokens.size .blockSequence
    some (((← r.dropKey).allowKey true).pushSkip .blockItem 1)

/-- Reads a question mark that begins a key. -/
def readKeyMark (r : Reading) : Option Reading :=
  if ¬ r.inFlow ∧ ¬ r.keyAllowed then none
  else do
    let r := r.openBlock r.cursor.column r.tokens.size .blockMapping
    some (((← r.dropKey).allowKey (!r.inFlow)).pushSkip .key 1)

/-- Reads an opening bracket or brace. -/
def readOpening (r : Reading) (t : Token) : Option Reading := do
  let r ← r.saveKey
  some (({ r with keys := none :: r.keys }.allowKey true).pushSkip t 1)

/-- Reads a closing bracket or brace. -/
def readClosing (r : Reading) (t : Token) : Option Reading := do
  let r ← r.dropKey
  let keys := if r.inFlow then r.keys.tail else r.keys
  some (({ r with keys := keys }.allowKey false).pushSkip t 1)

/-- Reads a token that may begin a key, or stand before one. -/
def readInline (r : Reading) (read : Cursor → Option (Token × Cursor)) : Option Reading := do
  let r ← r.saveKey
  let (t, c) ← read r.cursor
  some ((r.allowKey false).pushTo t c)

/-- Whether a plain scalar may begin with the characters at the start of a text. -/
def beginsPlain (flow : Bool) : Text → Bool
  | [] => false
  | '-' :: r => !r.head?.any isWhite
  | '?' :: r | ':' :: r => !flow && !endsWord r
  | c :: _ => !(isWhite c || isBreak c || c ∈ ",[]\x7b\x7d#&*!|>'\"%@\x60".toList)

/-- Reads a plain scalar. -/
def readPlainToken (r : Reading) : Option Reading := do
  let r ← r.saveKey
  let (t, onNewLine, c) ← readPlain r.inFlow (r.indent + 1).toNat r.cursor
  some ((r.allowKey onNewLine).pushTo (.scalar t .plain) c)

/-- Reads a block scalar. -/
def readBlockToken (r : Reading) (literal : Bool) : Option Reading := do
  let r ← r.dropKey
  let (t, c) ← readBlock literal r.indent r.cursor
  some ((r.allowKey true).pushTo (.scalar t (if literal then .literal else .folded)) c)

/-- Reads a mark between documents, or a directive. -/
def readOutside (r : Reading) (read : Cursor → Option (Token × Cursor)) : Option Reading := do
  let r ← (r.closeBlocks (-1)).dropKey
  let (t, c) ← read r.cursor
  some ((r.allowKey false).pushTo t c)

/-- A reader of texts that does not leave its line, as one of places. -/
def onLine {α : Type} (read : Text → Option (α × Text)) (skipped : Nat) (c : Cursor) : Option (α × Cursor) := do
  let s := c.rest.drop skipped
  let (a, r) ← read s
  some (a, c.skip (skipped + (s.length - r.length)))

/-- The token that begins with the characters at the cursor, none of which are blanks. -/
def readToken (r : Reading) : Option Reading :=
  let c := r.cursor
  let rest := c.rest
  let second := rest.tail
  match rest.head? with
  | none => none
  | some x =>
    if c.column = 0 ∧ x = '%' then r.readOutside (onLine readDirective 1)
    else if c.atDocumentMark then
      r.readOutside fun c => some (if x = '-' then .documentStart else .documentEnd, c.skip 3)
    else if x = '[' then r.readOpening .openSequence
    else if x = '{' then r.readOpening .openMapping
    else if x = ']' then r.readClosing .closeSequence
    else if x = '}' then r.readClosing .closeMapping
    else if x = ',' then do some (((← r.dropKey).allowKey true).pushSkip .comma 1)
    else if x = '-' ∧ endsWord second then r.readItemMark
    else if x = '?' ∧ (r.inFlow ∨ endsWord second) then r.readKeyMark
    else if x = ':' ∧ (r.inFlow ∨ endsWord second) then r.readValueMark
    else if x = '*' then
      r.readInline (onLine (fun s => (readAnchorName s).map fun p => (.alias p.1, p.2)) 1)
    else if x = '&' then
      r.readInline (onLine (fun s => (readAnchorName s).map fun p => (.anchor p.1, p.2)) 1)
    else if x = '!' then r.readInline (onLine (readTag r.inFlow) 0)
    else if x = '|' ∧ ¬ r.inFlow then r.readBlockToken true
    else if x = '>' ∧ ¬ r.inFlow then r.readBlockToken false
    else if x = '\'' then
      r.readInline fun c => (readSingleQuoted c).map fun p => (.scalar p.1 .singleQuoted, p.2)
    else if x = '"' then
      r.readInline fun c => (readDoubleQuoted c).map fun p => (.scalar p.1 .doubleQuoted, p.2)
    else if beginsPlain r.inFlow rest then r.readPlainToken
    else none

/-- All tokens from the cursor on. -/
def readAll (r : Reading) : Nat → Option (Array Token)
  | 0 => none
  | fuel + 1 => do
    let r ← (r.skipToToken (r.cursor.rest.length + 1)).dropStaleKeys
    if r.cursor.rest.isEmpty then
      let r ← (r.closeBlocks (-1)).dropKey
      some r.tokens
    else
      let r := r.closeBlocks r.cursor.column
      (← r.readToken).readAll fuel

end Reading

/-- The tokens of a text. -/
def tokens? (s : Text) : Option (List Token) :=
  let s := if s.head? = some '\ufeff' then s.tail else s
  if s.all isAllowed then ((Reading.start s).readAll (s.length + 1)).map Array.toList else none

end Yaml

end TemplateFill
