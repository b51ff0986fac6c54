import Mathlib.Tactic.Common
import TemplateFill.Files.Tree

/-!
# Changing a file that is there

A change of the content of a file that is there succeeds, the file holds the changed content
afterwards, and everything else in the tree is what it was: a file or a directory, or missing
(`FileTree.change_of_read`).
-/

namespace TemplateFill

namespace FileNode

/-- Whether a node is a directory. -/
def isDirectory : FileNode → Bool
  | .file _ => false
  | .directory _ => true

lemma child?_cons_self (name : Text) (node : FileNode) (es : List (Text × FileNode)) :
    child? ((name, node) :: es) name = some node := by
  simp [child?]

lemma child?_cons_of_ne {e : Text × FileNode} {name : Text} (h : name ≠ e.1)
    (es : List (Text × FileNode)) : child? (e :: es) name = child? es name := by
  obtain ⟨first, node⟩ := e
  simp [child?, List.lookup_cons, beq_eq_false_iff_ne.2 h]

lemma child?_setEntry_self (name : Text) (node : FileNode) (es : List (Text × FileNode)) :
    child? (setEntry name node es) name = some node := by
  induction es with
  | nil => exact child?_cons_self name node []
  | cons e es ih =>
    rw [setEntry]
    split
    · exact child?_cons_self name node es
    · rename_i hne
      rw [child?_cons_of_ne (Ne.symm hne), ih]

lemma child?_setEntry_of_ne {name other : Text} (h : other ≠ name) (node : FileNode)
    (es : List (Text × FileNode)) : child? (setEntry name node es) other = child? es other := by
  induction es with
  | nil => rw [setEntry, child?_cons_of_ne h]
  | cons e es ih =>
    rw [setEntry]
    split
    · rename_i he
      rw [child?_cons_of_ne h, child?_cons_of_ne (by rw [he]; exact h)]
    · by_cases hother : other = e.1
      · obtain ⟨name', node'⟩ := e
        rw [hother, child?_cons_self, child?_cons_self]
      · rw [child?_cons_of_ne hother, child?_cons_of_ne hother, ih]

/-- A change of a file that is there changes nothing else: every place leads to what it led to, be
it a file, a directory or nothing. -/
lemma change_of_find {node : FileNode} {names : List Text} {content : Text} (f : Text → Text)
    (h : node.find names = .ok (.file content)) :
    ∃ node', node.change f names = .ok node' ∧ node'.find names = .ok (.file (f content)) ∧
      ∀ other, (node'.find other).map isDirectory = (node.find other).map isDirectory := by
  induction names generalizing node with
  | nil =>
    obtain rfl : node = .file content := by simpa [find] using h
    refine ⟨.file (f content), rfl, rfl, fun other => ?_⟩
    cases other <;> rfl
  | cons name names ih =>
    match node with
    | .file c => exact absurd h (by simp [find])
    | .directory es =>
      cases hchild : child? es name with
      | none => exact absurd h (by simp [find, hchild])
      | some inner =>
        rw [find, hchild] at h
        obtain ⟨inner', hchange, hfind, hother⟩ := ih h
        refine ⟨.directory (setEntry name inner' es), ?_, ?_, fun other => ?_⟩
        · rw [change.eq_def]
          simp only [hchild, hchange]
          rfl
        · rw [find, child?_setEntry_self]
          exact hfind
        · cases other with
          | nil => rfl
          | cons first rest =>
            rw [find, find]
            by_cases hfirst : first = name
            · rw [hfirst, child?_setEntry_self, hchild]
              exact hother rest
            · -- another entry of the directory
              rw [child?_setEntry_of_ne hfirst]

end FileNode

namespace FileTree

variable {t : FileTree} {p : Path} {content : Text}

/-- Whether a path names something depends on what is a file and what is a directory only. -/
lemma contains_eq (t : FileTree) (p : Path) :
    t.contains p = (!p.isEmpty &&
      match (t.root.find (p.parts t.workingDirectory)).map FileNode.isDirectory with
      | .ok true => true
      | .ok false => !p.namesDirectory
      | .error _ => false) := by
  rw [contains, find]
  cases p.isEmpty with
  | true => rfl
  | false =>
    rcases t.root.find (p.parts t.workingDirectory) with why | ⟨c | es⟩
    · rfl
    · cases p.namesDirectory <;> rfl
    · rfl

/-- The text of a file is read through a path without a slash at its end. -/
lemma read_eq_ok_iff : t.read p = .ok content ↔ p.isEmpty = false ∧ p.namesDirectory = false ∧
    t.root.find (p.parts t.workingDirectory) = .ok (.file content) := by
  rw [read, find]
  cases p.isEmpty with
  | true => simp [bind, Except.bind]
  | false =>
    rcases t.root.find (p.parts t.workingDirectory) with why | ⟨c | es⟩
    · simp [bind, Except.bind]
    · cases p.namesDirectory <;> simp [bind, Except.bind, pure, Except.pure, throw, throwThe,
        MonadExceptOf.throw]
    · simp [bind, Except.bind, pure, Except.pure, throw, throwThe, MonadExceptOf.throw]

/-- A change of a file that is there succeeds, and it changes nothing else. -/
theorem change_of_read (f : Text → Text) (h : t.read p = .ok content) :
    ∃ t', t.change p f = .ok t' ∧ t'.read p = .ok (f content) ∧
      ∀ other, t'.contains other = t.contains other := by
  obtain ⟨hempty, hdirectory, hfind⟩ := read_eq_ok_iff.1 h
  obtain ⟨root', hchange, hfind', hother⟩ := FileNode.change_of_find f hfind
  refine ⟨{ t with root := root' }, ?_, read_eq_ok_iff.2 ⟨hempty, hdirectory, hfind'⟩,
    fun other => ?_⟩
  · simp [change, hempty, hdirectory, hchange]
  · rw [contains_eq, contains_eq, hother]

end FileTree

end TemplateFill
