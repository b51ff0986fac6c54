import TemplateFill.Text.Layout
import TemplateFill.Template.Parameter

/-!
# Placeholders

A placeholder is two opening braces, a body, and two closing braces.  The body is not empty and
holds no closing brace; an opening brace may be part of it.
-/

namespace TemplateFill

namespace Placeholder

/-- A placeholder with the given body, as it is written. -/
def written (body : Text) : Text := '{' :: '{' :: (body ++ ['}', '}'])

/-- The body of the placeholder at the start of a text, and the text after the placeholder. -/
def read : Text → Option (Text × Text)
  | '{' :: '{' :: s =>
    let body := s.takeWhile (· ≠ '}')
    if body.isEmpty then none
    else match s.dropWhile (· ≠ '}') with
      | '}' :: '}' :: r => some (body, r)
      | _ => none
  | _ => none

theorem read_eq_some {s body r : Text} (h : read s = some (body, r)) :
    s = written body ++ r ∧ body ≠ [] ∧ '}' ∉ body := by
  unfold read at h
  split at h
  case h_2 => simp at h
  case h_1 t =>
    dsimp only at h
    split at h
    · simp at h
    · rename_i hne
      split at h
      · rename_i r' hd
        obtain ⟨rfl, rfl⟩ := Prod.mk.inj (Option.some.inj h)
        have ht : t = t.takeWhile (· ≠ '}') ++ '}' :: '}' :: r' := by
          rw [← hd, List.takeWhile_append_dropWhile]
        refine ⟨?_, by simpa using hne, fun hm => ?_⟩
        · simpa [written] using ht
        · simpa using List.all_eq_true.1 (List.all_takeWhile (l := t)) _ hm
      · simp at h

/-- The pattern of placeholders; a match is a body. -/
def pattern : Pattern Text where
  read := read
  read_shorter h := by
    rw [(read_eq_some h).1]
    simp [written]
    omega

end Placeholder

/-- The placeholders of a template and the gaps between them. -/
def placeholders (template : Text) : Layout Text := Placeholder.pattern.layout template

/-- The parameters that the placeholders of a template declare, in order, repeats included. -/
def declared (template : Text) : List Parameter :=
  (placeholders template).items.filterMap Parameter.ofBody?

end TemplateFill
