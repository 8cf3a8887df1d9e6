import BuildPipeline.Command.Local
import BuildPipeline.CommandLine.Completion

/-!
The program: what its arguments ask for, with the shell of the system.
-/
namespace BuildPipeline.CommandLine

def versionLine : String := "cadence 0.5.0"

def usageLines : List String :=
  ["Usage: cadence run [OPTIONS]",
    "       cadence validate-config [OPTIONS]",
    "       cadence show [OPTIONS] <REPORT>"]

def Surroundings.execute (w : Surroundings) (arguments : List String) : Outcome :=
  match Request.read w.environment arguments with
  | .ok (.run r) => w.run Shell.system r
  | .ok (.validate file) => w.validate file
  | .ok (.summarize p) => w.summarize p
  | .error .version => { exitCode := 0, lines := [versionLine], files := w.files }
  | .error .help => { exitCode := 0, lines := usageLines, files := w.files }
  | .error (.misuse m) =>
    { exitCode := 2, complaint := some ("error: " ++ m.message), files := w.files }

end BuildPipeline.CommandLine
