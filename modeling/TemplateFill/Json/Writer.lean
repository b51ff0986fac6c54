import TemplateFill.Json.Basic

/-!
# Writing JSON

A value is written on one line without blanks, or over several lines with two blanks for each
level.  In strings the quote, the backslash and the control characters are escaped, with a letter
where there is one, and all other characters stand for themselves.
-/

namespace TemplateFill

namespace Json

/-- A digit of a hexadecimal number. -/
def hexDigit (n : Nat) : Char := Nat.digitChar (n % 16)

/-- A character of a string as it is written. -/
def escape (c : Char) : Text :=
  if c = '"' then ['\\', '"']
  else if c = '\\' then ['\\', '\\']
  else if c = '\n' then ['\\', 'n']
  else if c = '\r' then ['\\', 'r']
  else if c = '\t' then ['\\', 't']
  else if c = '\x08' then ['\\', 'b']
  else if c = '\x0c' then ['\\', 'f']
  else if c.toNat < 0x20 then
    ['\\', 'u', '0', '0', hexDigit (c.toNat / 16), hexDigit c.toNat]
  else [c]

/-- A string between its quotes. -/
def quote (s : Text) : Text := '"' :: (s.flatMap escape ++ ['"'])

mutual

/-- A value on one line. -/
def compact : Json → Text
  | .null => "null"
  | .bool b => if b then "true" else "false"
  | .integer i => Text.ofInt i
  | .real n b => b.stored n
  | .string s => quote s
  | .array items => '[' :: (Text.join [','] (compactItems items) ++ [']'])
  | .object members => '{' :: (Text.join [','] (compactMembers members) ++ ['}'])

/-- The items of an array, each on its own. -/
def compactItems : List Json → List Text
  | [] => []
  | v :: vs => compact v :: compactItems vs

/-- The members of an object, each on its own. -/
def compactMembers : List (Text × Json) → List Text
  | [] => []
  | m :: ms => (quote m.1 ++ ':' :: compact m.2) :: compactMembers ms

end

/-- A new line with the blanks of a level. -/
def newLine (level : Nat) : Text := '\n' :: List.replicate (2 * level) ' '

/-- Pieces on lines of their own between two brackets; without pieces the brackets stand alone. -/
def bracketed (level : Nat) (opening closing : Char) (pieces : List Text) : Text :=
  if pieces.isEmpty then [opening, closing]
  else opening :: (newLine (level + 1) ++ Text.join (',' :: newLine (level + 1)) pieces
    ++ newLine level ++ [closing])

mutual

/-- A value over several lines, the first of which is already begun at a level. -/
def prettyAt (level : Nat) : Json → Text
  | .array items => bracketed level '[' ']' (prettyItems level items)
  | .object members => bracketed level '{' '}' (prettyMembers level members)
  | v => compact v

/-- The items of an array, each on its own. -/
def prettyItems (level : Nat) : List Json → List Text
  | [] => []
  | v :: vs => prettyAt (level + 1) v :: prettyItems level vs

/-- The members of an object, each on its own. -/
def prettyMembers (level : Nat) : List (Text × Json) → List Text
  | [] => []
  | m :: ms => (quote m.1 ++ ": " ++ prettyAt (level + 1) m.2) :: prettyMembers level ms

end

/-- A value over several lines. -/
def pretty (v : Json) : Text := prettyAt 0 v

end Json

end TemplateFill
