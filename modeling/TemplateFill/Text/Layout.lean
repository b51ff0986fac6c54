import TemplateFill.Text.Basic

/-!
# Layouts: the matches of a pattern in a text, and the gaps between them

A `Pattern` reads one match at the start of a text, if there is one, and says what is left.  Its
`layout` of a text takes matches from left to right, each at the earliest place where the pattern
reads one, and never two that overlap.  What lies between them are the gaps, which
`Layout.fill` copies unchanged while it replaces every match by a text of its own.
-/

namespace TemplateFill

/-- A way to read one match at the start of a text; a match is never empty. -/
structure Pattern (α : Type) where
  /-- The match at the start of a text, and the text after it. -/
  read : Text → Option (α × Text)
  read_shorter : ∀ {s a r}, read s = some (a, r) → r.length < s.length

/-- The matches in a text, each with the gap behind it, and the gap before the first one. -/
structure Layout (α : Type) where
  /-- The gap before the first match. -/
  lead : Text
  /-- The matches in order, each with the gap that follows it. -/
  matched : List (α × Text)
  deriving Repr, DecidableEq

namespace Layout

variable {α : Type}

/-- A text without matches. -/
def ofGap (s : Text) : Layout α := ⟨s, []⟩

/-- One more gap character in front. -/
def consGap (c : Char) (l : Layout α) : Layout α := { l with lead := c :: l.lead }

/-- One more match in front. -/
def consMatch (a : α) (l : Layout α) : Layout α := ⟨[], (a, l.lead) :: l.matched⟩

/-- The matches in order. -/
def items (l : Layout α) : List α := l.matched.map Prod.fst

/-- The text with every match replaced by its text under `f`, and every gap as it is. -/
def fill (f : α → Text) (l : Layout α) : Text :=
  l.lead ++ l.matched.flatMap fun p => f p.1 ++ p.2

@[simp] theorem fill_ofGap (f : α → Text) (s : Text) : (ofGap s).fill f = s := by
  simp [fill, ofGap]

@[simp] theorem fill_consGap (f : α → Text) (c : Char) (l : Layout α) :
    (l.consGap c).fill f = c :: l.fill f := by
  simp [fill, consGap]

@[simp] theorem fill_consMatch (f : α → Text) (a : α) (l : Layout α) :
    (l.consMatch a).fill f = f a ++ l.fill f := by
  simp [fill, consMatch]

end Layout

namespace Pattern

variable {α : Type}

/-- The matches of a pattern in a text, leftmost first. -/
def layout (p : Pattern α) : Text → Layout α
  | [] => .ofGap []
  | c :: r =>
    match h : p.read (c :: r) with
    | some (a, rest) =>
      have : rest.length < r.length + 1 := p.read_shorter h
      (p.layout rest).consMatch a
    | none => (p.layout r).consGap c
termination_by s => s.length
decreasing_by all_goals (simp only [List.length_cons]; omega)

end Pattern

end TemplateFill
