import Std.Time.DateTime.Timestamp
import TemplateFill.CommandLine.Report
import TemplateFill.Shell.Process

/-!
# The program

Reads the arguments, the environment and the files that a command needs, carries the command out,
and writes what it reports.  A command that takes input is carried out again after each line, on
the input so far, and what is new in its report is written before the next line is read.
-/

open TemplateFill

namespace TemplateFill.Program

/-- Text is written to a stream. -/
def write (stream : IO.FS.Stream) (t : Text) : IO Unit := do
  stream.putStr (String.ofList t)
  stream.flush

/-- The time by the clock. -/
def now : IO Timestamp := do
  let t ← Std.Time.Timestamp.now
  return .ofSeconds t.val.second.val t.val.nano.val.toNat

/-- What is found at a path. -/
def viewOf (path : Path) : IO FileView := do
  try
    let content ← IO.FS.readBinFile (String.ofList path)
    return .ofPath path (some ((Utf8.decode? content.toList).elim (.error .notText) .ok))
  catch
    | .noFileOrDirectory .. => return .ofPath path none
    | why => return .ofPath path (some (.error (.other why.toString.toList)))

/-- The tree that holds one file. -/
def treeOf (path : Path) (content : Text) : FileTree :=
  let files := (path.parent?.bind fun d => (FileTree.empty.makeDirectories d).toOption).getD .empty
  (files.write path content).toOption.getD .empty

/-- Notes are put at the end of a journal; what cannot be written is passed over. -/
def keep (journal : Option Path) (notes : List Journal.Note) : IO Unit := do
  let some path := journal | return
  let time ← now
  try
    let parent := path.parent?.getD []
    unless parent.isEmpty do IO.FS.createDirAll (String.ofList parent)
    IO.FS.withFile (String.ofList path) .append fun h =>
      h.putStr (String.ofList (Journal.linesOf (Journal.entriesAt time notes)))
  catch _ => return

/-- The next line with its line feed; it is empty at the end of the input. -/
partial def readLine (input : IO.FS.Stream) (line : Array UInt8) : IO (List UInt8) := do
  match (← input.read 1).toList with
  | [] => return line.toList
  | b :: _ => if b = 10 then return (line.push b).toList else readLine input (line.push b)

/-- How much of a report has been written. -/
structure Progress where
  shown : Nat
  unrecognized : Nat
  notes : Nat

/-- What is new in a report is written, but for the end of a report that waits for more input. -/
def publish (p : Progress) (r : Report) (ended : Bool) : IO Progress := do
  let errors ← IO.getStderr
  (r.unrecognized.drop p.unrecognized).forM fun line =>
    write errors (InputLine.unrecognizedMessage line ++ ['\n'])
  let notes := if ended then r.notes else r.notes.dropLast
  keep r.journal (notes.drop p.notes)
  if ended then
    write errors (r.standardError.drop p.shown)
    write (← IO.getStdout) r.result
  else write errors (r.shown.drop p.shown)
  return ⟨r.shown.length, r.unrecognized.length, notes.length⟩

/-- A command is carried out on the input so far, and on more input while it waits for that. -/
partial def carryOut (i : Invocation) (env : Environment) (p : Progress) : IO Report := do
  let r := i.run env
  if r.waits then
    let p ← publish p r false
    let line ← readLine (← IO.getStdin) #[]
    if line.isEmpty then
      let _ ← publish p r true
      return r
    carryOut i { env with input := env.input ++ line } p
  else
    let _ ← publish p r true
    return r

/-- What the arguments ask for is done; the result is the exit code. -/
def run (arguments : List Text) : IO Nat := do
  match Arguments.read arguments with
  | .error (.version v) =>
    write (← IO.getStdout) (Arguments.versionText v)
    return 0
  | .error .help =>
    write (← IO.getStdout) Arguments.helpText
    return 0
  | .error (.misuse m) =>
    write (← IO.getStderr) ("error: " ++ m.message ++ ['\n'])
    return 2
  | .ok i =>
    let look (name : String) : IO (Option Path) := do
      return (← IO.getEnv name).map String.toList
    let homes : Config.Variables := ⟨← look "XDG_CONFIG_HOME", ← look "HOME"⟩
    let (view, files) ← match i.config <|> homes.standardPath? with
      | some path => do
        let view ← viewOf path
        pure (view, (view.read path).toOption.elim .empty (treeOf path))
      | none => pure (FileTree.empty.view, FileTree.empty)
    let r ← carryOut i ⟨view, homes, Shell.start files, []⟩ ⟨0, 0, 0⟩
    return r.exitCode

end TemplateFill.Program

def main (arguments : List String) : IO UInt32 := do
  return (← TemplateFill.Program.run (arguments.map String.toList)).toUInt32
