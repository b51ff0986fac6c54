import TemplateFill.Session.Basic

/-!
# What is shown of a session

After every event the parameter that has the focus is shown, and below it the template with the
values so far.  A list shows its options in a window around the cursor, one on each row, numbered
from one, and a mark at the row of the cursor.
-/

namespace TemplateFill

/-- A row of a list. -/
structure OptionRow where
  /-- Whether the cursor is on this row. -/
  marked : Bool
  /-- The number of the option, counted from one. -/
  number : Nat
  text : Text
  deriving DecidableEq, Repr

namespace OptionRow

/-- The row as it is shown. -/
def line (r : OptionRow) : Text :=
  "  " ++ (if r.marked then '>' else ' ') :: ' ' :: Text.padLeft 2 (Text.ofNat r.number) ++ "  "
    ++ r.text ++ ['\n']

/-- The rows of the options in a window. -/
def ofWindow (w : Window) (options : List Text) : List OptionRow :=
  ((options.take w.stop).drop w.start).zipIdx.map fun (text, i) =>
    ⟨decide (w.start + i = w.cursor), w.start + i + 1, text⟩

end OptionRow

namespace Slot

/-- The rows that are shown of a list at most `height` rows high. -/
def rows (s : Slot) (height : Nat) : List OptionRow :=
  match s.options? with
  | none => []
  | some os => OptionRow.ofWindow (.around s.cursor os.length height) os

/-- What is shown of a slot after its name. -/
def describe (s : Slot) (height : Nat) : Text :=
  match s.stage, s.options? with
  | .loading, _ => ": loading...\n"
  | .failed why, _ => " [" ++ why.message ++ "]: " ++ s.value ++ ['\n']
  | _, none => ": " ++ s.value ++ ['\n']
  | _, some os =>
    let w := Window.around s.cursor os.length height
    let position : Text :=
      if w.isScrolling then
        "    (" ++ Text.ofNat (w.cursor + 1) ++ " of " ++ Text.ofNat w.total ++ ")\n"
      else []
    let empty : Text := if os.isEmpty then "    (no options)\n" else []
    '\n' :: empty ++ (s.rows height).flatMap OptionRow.line ++ position

end Slot

namespace Session

/-- What is shown of a session, with lists at most `height` rows high. -/
def describe (s : Session) (height : Nat) : Text :=
  let focused : Text :=
    match s.slots[s.focus]? with
    | none => []
    | some slot =>
      "[" ++ Text.ofNat (s.focus + 1) ++ '/' :: Text.ofNat s.size ++ "] " ++ slot.name ++ " ("
        ++ slot.parameter.kind.label ++ ")" ++ slot.describe height
  focused ++ "preview: " ++ s.preview ++ ['\n']

end Session

end TemplateFill
