import TemplateFill.Text.Basic

/-!
# Paths

A path is a text of names with slashes between them.  It is kept as it was given, because messages
show it so; its parts are the names that say where it leads.
-/

namespace TemplateFill

/-- A path as it was given. -/
abbrev Path := Text

namespace Path

/-- A path inside another one; an absolute one stands for itself. -/
def join (base inner : Path) : Path :=
  if inner.head? = some '/' then inner
  else if base.isEmpty ∨ base.getLast? = some '/' then base ++ inner
  else base ++ '/' :: inner

/-- The path without slashes, and dots that stand for the place itself, at its end. -/
def trimmed (p : Path) : Path :=
  let rec trim : Text → Text
    | '/' :: r => if r.isEmpty then ['/'] else trim r
    | '.' :: '/' :: r => trim ('/' :: r)
    | s => s
  (trim p.reverse).reverse

/-- The path of the directory that holds what a path names; a path of one name has the empty path
as its parent, and the root has none. -/
def parent? (p : Path) : Option Path :=
  let t := trimmed p
  if t = ['/'] ∨ t.isEmpty then none
  else
    let rest := t.reverse.dropWhile (· ≠ '/')
    some (if rest.isEmpty then [] else trimmed rest.reverse)

/-- The names that lead to a place, seen from a working directory. -/
def parts (workingDirectory : List Text) (p : Path) : List Text :=
  let start := if p.head? = some '/' then [] else workingDirectory
  (Text.pieces '/' p).foldl
    (fun done name =>
      if name.isEmpty ∨ name = ['.'] then done
      else if name = ['.', '.'] then done.dropLast
      else done ++ [name])
    start

/-- Whether a path can only name a directory. -/
def namesDirectory (p : Path) : Bool := p.getLast? = some '/'

end Path

end TemplateFill
