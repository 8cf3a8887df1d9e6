import BuildPipeline.FileSystem.Operations
import BuildPipeline.Json.Document
import BuildPipeline.Json.Printer
import BuildPipeline.Shell.Installation
import BuildPipeline.Text.Lossy

/-!
A project's folder as a document: an object with the path and the text of each file. The program is
given its project like that, and tells like that what it changed.
-/
namespace BuildPipeline.CommandLine.Snapshot

/-- An empty project in a usual system. -/
def empty : FileSystem :=
  ⟨.folder (Shell.Installation.root ++ [("project", .folder [])]), ["project"], []⟩

/-- Writes a file, and makes the folders that it lies in. -/
def addFile (fs : FileSystem) (p : Path) (content : ByteArray) : FileSystem :=
  let fs := match p.parent? with
    | some parent => (fs.makeFolderPath parent).2
    | none => fs
  (fs.writeBytes p content).2

/-- The project that a document describes; no text at all stands for an empty one. -/
def read? (text : String) : Option FileSystem :=
  if text.isEmpty then some empty
  else do
    let members ← (← Json.parse? text).members?
    members.foldlM (fun fs m => do return addFile fs ⟨m.1⟩ (← m.2.string?).toUTF8) empty

def files (fs : FileSystem) : List (String × ByteArray) :=
  let entries := match fs.root.get? fs.workingFolder with
    | some project => Node.descendants [] project
    | none => []
  entries.filterMap fun
    | (names, .file content _) => some ((Path.ofNames names).text, content)
    | _ => none

def isUnchanged (old : List (String × ByteArray)) (path : String) (content : ByteArray) : Bool :=
  match old.lookup path with
  | some before => before.data == content.data
  | none => false

/-- The files that are new or hold something else than before. -/
def changes (before after : FileSystem) : Json :=
  let old := files before
  .object <| (files after).filterMap fun (path, content) =>
    if isUnchanged old path content then none
    else some (path, .string (Text.decodeLossy content))

end BuildPipeline.CommandLine.Snapshot
