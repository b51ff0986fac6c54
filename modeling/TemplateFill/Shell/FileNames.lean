import TemplateFill.Shell.Supply
import TemplateFill.Shell.Pattern
import TemplateFill.Text.Named

/-!
# File names that a pattern stands for

A field with stars, question marks or brackets that are not quoted stands for the paths that it
matches, in order, or for itself if it matches none.  Slashes are matched by slashes only, and a dot
at the beginning of a name by a dot.
-/

namespace TemplateFill

namespace Shell

/-- An argument that may still be a pattern: its characters, each marked if it is quoted. -/
abbrev Field := List (Char × Bool)

namespace Field

/-- The characters of a field. -/
def text (f : Field) : Text := f.map Prod.fst

/-- Whether a field may stand for other texts. -/
def isPattern (f : Field) : Bool := f.any fun p => !p.2 && ['*', '?', '['].contains p.1

/-- The parts of a field between its slashes. -/
def parts : Field → List Field
  | [] => [[]]
  | p :: r =>
    if p.1 = '/' then [] :: parts r
    else match parts r with
      | [] => [[p]]
      | f :: fs => (p :: f) :: fs

/-- The paths to which a part leads from the directory at a path, which is empty or ends with a
slash. -/
def follow (files : FileTree) (part : Field) (base : Path) : List Path :=
  if ¬ part.isPattern then [base ++ part.text]
  else match files.find (if base.isEmpty then ['.'] else base) with
    | .ok (.directory es) =>
      let fits (name : Text) : Bool :=
        Pattern.accepts (Pattern.pieces part (part.length + 1)) name
          && (name.head? ≠ some '.' || part.text.head? = some '.')
      ((es.map Prod.fst).filter fits).map (base ++ ·)
    | _ => []

/-- What a field stands for. -/
def names (files : FileTree) (f : Field) : List Text :=
  if ¬ f.isPattern then [f.text]
  else
    let found := match f.parts with
      | [] => []
      | p :: ps =>
        ps.foldl (fun bases part => bases.flatMap fun b => follow files part (b ++ ['/']))
          (follow files p [])
    let found := (found.filter files.contains).mergeSort fun a b => Text.order a b ≠ .gt
    if found.isEmpty then [f.text] else found

end Field

end Shell

end TemplateFill
