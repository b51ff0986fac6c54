import TemplateFill.Yaml.Pen
import TemplateFill.Yaml.Value

/-!
# Writing YAML values

Sequences and mappings are written as blocks.  Each item stands on a line behind a dash, and each
member on a line with a colon between its key and its value.  Blocks are indented by two columns,
but a sequence that is the value of a key stands in the column of the key.  A key that is too long,
has lines of its own or is not a scalar stands behind a question mark.
-/

namespace TemplateFill

namespace Yaml

/-- A floating point number as it is written. -/
def Real.written : Real → Text
  | .finite negative m => m.stored negative
  | .infinity false => ".inf"
  | .infinity true => "-.inf"
  | .nan => ".nan"

namespace Value

/-- The number of bytes of a text. -/
def byteLength (s : Text) : Nat := s.foldl (fun n c => n + c.utf8Size) 0

/-- Whether a value can stand before a colon on one line with it. -/
def isSimpleKey : Value → Bool
  | .string s => !s.any isBreak && byteLength s ≤ 128
  | .sequence vs => vs.isEmpty
  | .mapping ms => ms.isEmpty
  | _ => true

/-- The column of a block inside a block at a column, or of one that is not inside another. -/
def blockColumn (around : Option Nat) : Nat :=
  match around with
  | none => 0
  | some n => n + 2

/-- The column of the lines of a scalar inside a block. -/
def scalarColumn (around : Option Nat) : Nat := around.getD 0 + 2

mutual

/-- Writes a value inside a block at a column; `isMember` says that the block is a mapping. -/
def write (around : Option Nat) (isMember : Bool) (p : Pen) : Value → Pen
  | .null => p.plain "null"
  | .bool true => p.plain "true"
  | .bool false => p.plain "false"
  | .integer i => p.plain (Text.ofInt i)
  | .real r => p.plain r.written
  | .string s => p.string (scalarColumn around) s
  | .sequence [] => (p.mark ['['] true true false).mark [']'] false false false
  | .sequence (v :: vs) =>
    let n := if isMember && !p.fresh then around.getD 0 else blockColumn around
    writeItems n p (v :: vs)
  | .mapping [] => (p.mark ['\x7b'] true true false).mark ['\x7d'] false false false
  | .mapping (m :: ms) => writeMembers (blockColumn around) p (m :: ms)

/-- Writes the items of a sequence at a column. -/
def writeItems (n : Nat) (p : Pen) : List Value → Pen
  | [] => p
  | v :: vs => writeItems n (write (some n) false ((p.indentTo n).mark ['-'] true false true) v) vs

/-- Writes the members of a mapping at a column. -/
def writeMembers (n : Nat) (p : Pen) : List (Value × Value) → Pen
  | [] => p
  | m :: ms => writeMembers n (writeMember n p m) ms

/-- Writes a member of a mapping at a column. -/
def writeMember (n : Nat) (p : Pen) : Value × Value → Pen
  | (k, v) =>
    let p := p.indentTo n
    let p :=
      if k.isSimpleKey then (write (some n) true p k).mark [':'] false false false
      else
        let p := write (some n) true (p.mark ['?'] true false true) k
        (p.indentTo n).mark [':'] true false true
    write (some n) true p v

end

/-- The text of a document that holds a value. -/
def text (v : Value) : Text := ((write none false Pen.start v).indentTo 0).text

end Value

end Yaml

end TemplateFill
