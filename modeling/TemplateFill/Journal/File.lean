import TemplateFill.Error
import TemplateFill.Files.Tree
import TemplateFill.Journal.Entry

/-!
# Journal files

A journal file holds one entry on each line.  Entries are only ever added at its end; the file and
the directory that holds it are made if they are missing.  Reading passes over lines that hold no
entry.
-/

namespace TemplateFill

namespace Journal

/-- Why a journal cannot be written or read. -/
inductive Fault where
  | noDirectory (directory : Path) (why : FileError)
  | notOpened (path : Path) (why : FileError)
  | notRead (path : Path) (why : FileError)
  deriving DecidableEq, Repr

/-- The text of the error. -/
def Fault.message : Fault → Text
  | .noDirectory d why =>
    "failed to create journal directory '" ++ d ++ "': " ++ why.message
  | .notOpened p why => "failed to open journal '" ++ p ++ "': " ++ why.message
  | .notRead p why => "failed to read journal '" ++ p ++ "': " ++ why.message

/-- The error that a command ends with. -/
def Fault.error (f : Fault) : Error := .stream f.message

/-- The files with the directory of a journal made, if it is missing. -/
def prepare (files : FileTree) (p : Path) : Except Fault FileTree :=
  match p.parent? with
  | none => .ok files
  | some d =>
    if d.isEmpty ∨ files.contains d then .ok files
    else match files.makeDirectories d with
      | .ok files => .ok files
      | .error why => .error (.noDirectory d why)

/-- The files with an entry put at the end of a journal. -/
def append (files : FileTree) (p : Path) (e : Entry) : Except Fault FileTree := do
  let files ← prepare files p
  match files.append p (e.line ++ ['\n']) with
  | .ok files => .ok files
  | .error why => .error (.notOpened p why)

/-- The lines of entries, each with its end. -/
def linesOf (es : List Entry) : Text := es.flatMap fun e => e.line ++ ['\n']

/-- Notes as entries of one time. -/
def entriesAt (now : Timestamp) (notes : List Note) : List Entry := notes.map fun n => ⟨n, now⟩

/-- The files with notes put at the end of a journal, all at one time.  A note that cannot be
written is passed over. -/
def keep (files : FileTree) (p : Path) (now : Timestamp) (notes : List Note) : FileTree :=
  (entriesAt now notes).foldl (fun files e => (append files p e).toOption.getD files) files

/-- The entries on the lines of a text; lines that hold none are passed over. -/
def entriesIn (content : Text) : List Entry := content.lines.filterMap Entry.read

/-- The entries of a journal. -/
def entries (files : FileTree) (p : Path) : Except Fault (List Entry) :=
  match files.read p with
  | .ok content => .ok (entriesIn content)
  | .error why => .error (.notRead p why)

end Journal

end TemplateFill
