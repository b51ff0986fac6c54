import TemplateFill.Text.Layout
import TemplateFill.Template.Placeholder

/-!
# Snippets with parameters in angle brackets

Other snippet collections write a parameter as a name in angle brackets, or as a name, an equals
sign and a default.  A name is made of ASCII letters and digits, underscores, dots and dashes, and
is not empty; a default may hold anything but a closing angle bracket.  Conversion replaces these
by placeholders and leaves the rest of the command, such as redirections, alone.
-/

namespace TemplateFill

/-- A parameter in angle brackets. -/
structure AngleParameter where
  name : Text
  /-- The default, which may be empty, if an equals sign is written. -/
  default : Option Text
  deriving DecidableEq, Repr

namespace AngleParameter

/-- The characters of a name. -/
def isNameChar (c : Char) : Bool :=
  c.isAlphanum || c = '_' || c = '.' || c = '-'

/-- A parameter as it is written. -/
def written (p : AngleParameter) : Text :=
  match p.default with
  | none => '<' :: (p.name ++ ['>'])
  | some d => '<' :: (p.name ++ '=' :: (d ++ ['>']))

/-- The parameter at the start of a text, and the text after it. -/
def read : Text → Option (AngleParameter × Text)
  | '<' :: s =>
    let name := s.takeWhile isNameChar
    if name.isEmpty then none
    else match s.dropWhile isNameChar with
      | '>' :: r => some (⟨name, none⟩, r)
      | '=' :: t =>
        match t.dropWhile (· ≠ '>') with
        | '>' :: r => some (⟨name, some (t.takeWhile (· ≠ '>'))⟩, r)
        | _ => none
      | _ => none
  | _ => none

theorem read_eq_some {s r : Text} {p : AngleParameter} (h : read s = some (p, r)) :
    s = p.written ++ r ∧ p.name ≠ [] := by
  unfold read at h
  split at h
  case h_2 => simp at h
  case h_1 t =>
    dsimp only at h
    split at h
    · simp at h
    · rename_i hne
      split at h
      · rename_i r' hd
        obtain ⟨rfl, rfl⟩ := Prod.mk.inj (Option.some.inj h)
        have ht : t = t.takeWhile isNameChar ++ '>' :: r' := by
          rw [← hd, List.takeWhile_append_dropWhile]
        exact ⟨by simpa [written] using ht, by simpa using hne⟩
      · rename_i u hd
        have ht : t = t.takeWhile isNameChar ++ '=' :: u := by
          rw [← hd, List.takeWhile_append_dropWhile]
        split at h
        · rename_i r' hu
          obtain ⟨rfl, rfl⟩ := Prod.mk.inj (Option.some.inj h)
          have hu' : u = u.takeWhile (· ≠ '>') ++ '>' :: r' := by
            rw [← hu, List.takeWhile_append_dropWhile]
          refine ⟨?_, by simpa using hne⟩
          rw [hu'] at ht
          simpa [written] using ht
        · simp at h
      · simp at h

/-- The pattern of parameters in angle brackets. -/
def pattern : Pattern AngleParameter where
  read := read
  read_shorter := by
    intro s p r h
    rw [(read_eq_some h).1]
    cases hd : p.default <;> simp [written, hd] <;> omega

/-- The body of the placeholder that stands for a parameter. -/
def body (p : AngleParameter) : Text :=
  match p.default with
  | none => p.name
  | some d => p.name ++ ':' :: d

end AngleParameter

/-- The parameters in angle brackets of a command and the gaps between them. -/
def angleParameters (command : Text) : Layout AngleParameter :=
  AngleParameter.pattern.layout command

/-- The command with placeholders in the place of its parameters in angle brackets. -/
def convertSnippet (command : Text) : Text :=
  (angleParameters command).fill fun p => Placeholder.written p.body

end TemplateFill
