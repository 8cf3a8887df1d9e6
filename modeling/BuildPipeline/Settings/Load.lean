import BuildPipeline.Failure
import BuildPipeline.Settings.Codec

/-!
Loading settings and reports from files.
-/
namespace BuildPipeline

/-- Reads a settings file. A text that is no settings document is told in the words that the
library for documents has for it, which may be any. -/
def Settings.load (fs : FileSystem) (p : Path) (words : String → String := fun _ => "") :
    Except Failure Settings :=
  match fs.readText p with
  | .error e => .error (.io e)
  | .ok text => match Settings.parse? text with
    | some s => .ok s
    | none => .error (.config (.malformed p.text (words text)))

def Report.load (fs : FileSystem) (p : Path) : Except Failure Report :=
  match fs.readText p with
  | .error e => .error (.io e)
  | .ok text => match Report.parse? text with
    | some r => .ok r
    | none => .error .json

end BuildPipeline
