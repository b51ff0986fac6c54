import TemplateFill.Files.Path

/-!
# A tree of directories and files

The files that a command reads and writes are a value: a tree of named directories and files, with
a working directory inside it.  Reading and writing fail for the reasons that a file system has,
each with the text and the number that are shown for it.
-/

namespace TemplateFill

/-- Why a file cannot be reached. -/
inductive FileError where
  | notFound
  | notDirectory
  | isDirectory
  /-- The content is not UTF-8. -/
  | notText
  /-- Anything else, such as a missing permission, in the words of the system. -/
  | other (reason : Text)
  deriving DecidableEq, Repr

/-- The text of a file error. -/
def FileError.message : FileError → Text
  | .notFound => "No such file or directory (os error 2)"
  | .notDirectory => "Not a directory (os error 20)"
  | .isDirectory => "Is a directory (os error 21)"
  | .notText => "stream did not contain valid UTF-8"
  | .other reason => reason

/-- A file with its content, or a directory with what it holds. -/
inductive FileNode where
  | file (content : Text)
  | directory (entries : List (Text × FileNode))
  deriving Inhabited

namespace FileNode

/-- What a directory holds under a name. -/
def child? (entries : List (Text × FileNode)) (name : Text) : Option FileNode :=
  entries.lookup name

/-- The entries with a new or another node under a name. -/
def setEntry (name : Text) (node : FileNode) :
    List (Text × FileNode) → List (Text × FileNode)
  | [] => [(name, node)]
  | e :: es => if e.1 = name then (name, node) :: es else e :: setEntry name node es

/-- The node to which names lead. -/
def find (node : FileNode) : List Text → Except FileError FileNode
  | [] => .ok node
  | name :: names =>
    match node with
    | .file _ => .error .notDirectory
    | .directory es =>
      match child? es name with
      | none => .error .notFound
      | some n => n.find names

/-- The tree with the directories that names lead through; those that are missing are made. -/
def makeDirectories (node : FileNode) : List Text → Except FileError FileNode
  | [] =>
    match node with
    | .file _ => .error .notDirectory
    | .directory es => .ok (.directory es)
  | name :: names =>
    match node with
    | .file _ => .error .notDirectory
    | .directory es => do
      let inner ← ((child? es name).getD (.directory [])).makeDirectories names
      return .directory (setEntry name inner es)

/-- The tree with the content of a file changed; a file that is missing is made, with the change of
an empty one. -/
def change (node : FileNode) (f : Text → Text) : List Text → Except FileError FileNode
  | [] =>
    match node with
    | .file content => .ok (.file (f content))
    | .directory _ => .error .isDirectory
  | name :: names =>
    match node with
    | .file _ => .error .notDirectory
    | .directory es =>
      match child? es name, names with
      | none, [] => .ok (.directory (setEntry name (.file (f [])) es))
      | none, _ :: _ => .error .notFound
      | some n, names => do
        let inner ← n.change f names
        return .directory (setEntry name inner es)

end FileNode

/-- A tree of files, seen from a working directory. -/
structure FileTree where
  root : FileNode
  workingDirectory : List Text

namespace FileTree

/-- A tree without files. -/
def empty : FileTree := ⟨.directory [], []⟩

/-- The node that a path names. -/
def find (t : FileTree) (p : Path) : Except FileError FileNode :=
  if p.isEmpty then .error .notFound
  else do
    match ← t.root.find (p.parts t.workingDirectory) with
    | .file c => if p.namesDirectory then throw .notDirectory else return .file c
    | n => return n

/-- Whether a path names something. -/
def contains (t : FileTree) (p : Path) : Bool := (t.find p).isOk

/-- The content of a file. -/
def read (t : FileTree) (p : Path) : Except FileError Text := do
  match ← t.find p with
  | .file c => return c
  | .directory _ => throw .isDirectory

/-- The tree with a directory at a path, and those on the way to it. -/
def makeDirectories (t : FileTree) (p : Path) : Except FileError FileTree := do
  return { t with root := ← t.root.makeDirectories (p.parts t.workingDirectory) }

/-- The tree with the content of a file changed, which is made if it is missing. -/
def change (t : FileTree) (p : Path) (f : Text → Text) : Except FileError FileTree :=
  if p.isEmpty then .error .notFound
  else if p.namesDirectory then
    match t.find p with
    | .error .notDirectory => .error .notDirectory
    | _ => .error .isDirectory
  else do
    return { t with root := ← t.root.change f (p.parts t.workingDirectory) }

/-- The tree with text put at the end of a file, which is made if it is missing. -/
def append (t : FileTree) (p : Path) (text : Text) : Except FileError FileTree :=
  t.change p (· ++ text)

/-- The tree with a text as the content of a file, which is made if it is missing. -/
def write (t : FileTree) (p : Path) (text : Text) : Except FileError FileTree :=
  t.change p fun _ => text

end FileTree

end TemplateFill
