/-!
# The window of options that is shown

Of a long list only a window is shown, with the cursor in its middle as far as the ends of the list
allow.
-/

namespace TemplateFill

/-- The options from `start` up to but not including `stop`, of `total` options. -/
structure Window where
  start : Nat
  stop : Nat
  cursor : Nat
  total : Nat
  deriving DecidableEq, Repr

namespace Window

/-- The window around a cursor that is at most `height` options high; the height is at least one. -/
def around (cursor total height : Nat) : Window :=
  let height := max height 1
  let centred := cursor - height / 2
  let start :=
    if total ≤ height then 0
    else if centred + height > total then total - height
    else centred
  ⟨start, min (start + height) total, cursor, total⟩

/-- Whether some options are outside the window. -/
def isScrolling (w : Window) : Bool := w.stop - w.start < w.total

end Window

end TemplateFill
