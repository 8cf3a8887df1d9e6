import BuildPipeline.Failure
import BuildPipeline.FileSystem.Operations
import BuildPipeline.Report.Codec
import BuildPipeline.Report.Page

/-!
The two documents of a report. Each is written beside its final place and then moved there, so that
the place never holds half a document.
-/
namespace BuildPipeline

inductive DocumentError
  | noFolder (folder : Path) (error : IoError)
  | notWritten (error : IoError)
  deriving DecidableEq

def DocumentError.message : DocumentError → String
  | .noFolder folder error => "cannot create " ++ folder.text ++ ": " ++ error.message
  | .notWritten error => (Failure.io error).message

structure DocumentOutcome where
  format : String
  path : Path
  error : Option DocumentError
  deriving DecidableEq

def DocumentOutcome.written (o : DocumentOutcome) : Bool := o.error.isNone

/-- Writes a text beside a path, then moves it there; if the move fails the text is removed. -/
def FileSystem.writeAtomic (fs : FileSystem) (p : Path) (text : String) :
    FileSystem.Outcome Unit :=
  let beside := p.withSuffix ".tmp"
  match fs.writeText beside text with
  | (.error e, fs) => (.error e, fs)
  | (.ok (), fs) =>
    match fs.rename beside p with
    | (.ok (), fs) => (.ok (), fs)
    | (.error e, fs) => (.error e, (fs.removeFile beside).2)

namespace Report

def documentName : String := "pipeline-report.json"

def pageName : String := "pipeline-report.html"

def documents (r : Report) : List (String × String × String) :=
  [("json", documentName, r.document), ("html", pageName, r.page)]

def writeEach (folder : Path) : List (String × String × String) → FileSystem →
    List DocumentOutcome × FileSystem
  | [], fs => ([], fs)
  | (format, name, text) :: rest, fs =>
    let path := folder.join ⟨name⟩
    let (result, fs) := fs.writeAtomic path text
    let error := match result with
      | .ok () => none
      | .error e => some (.notWritten e)
    let (outcomes, fs) := writeEach folder rest fs
    (⟨format, path, error⟩ :: outcomes, fs)

/-- Writes both documents into the reports folder, which is made if need be. -/
def writeAll (r : Report) (folder : Path) (fs : FileSystem) :
    List DocumentOutcome × FileSystem :=
  match fs.makeFolderPath folder with
  | (.error e, fs) =>
    (r.documents.map fun d => ⟨d.1, folder.join ⟨d.2.1⟩, some (.noFolder folder e)⟩, fs)
  | (.ok (), fs) => writeEach folder r.documents fs

end Report
end BuildPipeline
