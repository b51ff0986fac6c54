import TemplateFill.Files.Tree

/-!
# What can be asked of files

A search looks at files and changes none of them.  All that it can do is to ask whether a path names
something, and what the text of a file is.  A `FileAccess` are these two questions, in a context in
which asking may have an effect, and a `FileView` are the answers of files that do not change.
-/

namespace TemplateFill

/-- The questions that can be asked of files. -/
structure FileAccess (m : Type → Type) where
  /-- Whether a path names something. -/
  contains : Path → m Bool
  /-- The text of a file, or why it cannot be read. -/
  read : Path → m (Except FileError Text)

/-- What is found at each path. -/
structure FileView where
  contains : Path → Bool
  read : Path → Except FileError Text
  /-- What is not there cannot be read. -/
  exists_of_missing : ∀ p, contains p = false → ∃ why, read p = .error why

namespace FileView

/-- The answers of a view. -/
def access (f : FileView) : FileAccess Id where
  contains p := pure (f.contains p)
  read p := pure (f.read p)

/-- A view of one path, where there is nothing or something that may fail to be read. -/
def ofPath (path : Path) (found : Option (Except FileError Text)) : FileView where
  contains p := p = path && found.isSome
  read p := if p = path then found.getD (.error .notFound) else .error .notFound
  exists_of_missing p h := by
    by_cases hp : p = path
    · cases found with
      | none => exact ⟨.notFound, if_pos hp⟩
      | some s => exact absurd h (by simp [hp])
    · exact ⟨.notFound, if_neg hp⟩

end FileView

/-- What is found in a tree. -/
def FileTree.view (t : FileTree) : FileView where
  contains := t.contains
  read := t.read
  exists_of_missing p h := by
    unfold FileTree.contains at h
    unfold FileTree.read
    cases hfind : t.find p with
    | ok node => exact absurd h (by simp [hfind, Except.isOk, Except.toBool])
    | error why => exact ⟨why, rfl⟩

instance : Coe FileTree FileView := ⟨FileTree.view⟩

end TemplateFill
