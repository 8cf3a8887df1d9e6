import BuildPipeline.Failure
import BuildPipeline.FileSystem.Operations
import BuildPipeline.SortedMap

/-!
Commands: how one is run and what comes of it. A runner may change files and has a state of its own;
it fails only if a command cannot be started.
-/
namespace BuildPipeline

structure RunOptions where
  /-- Time limit in milliseconds. -/
  limit : Count := 300000
  captureOutput : Bool := true
  cwd : Option Path := none
  env : SortedMap String := .empty
  deriving DecidableEq

structure ProcessOutput where
  exitCode : Int32 := 0
  stdout : String := ""
  stderr : String := ""
  timedOut : Bool := false
  durationMs : Count := 0
  deriving DecidableEq

namespace ProcessOutput

def timeout (limit : Count) : ProcessOutput where
  exitCode := -1
  stderr := "Command timed out after " ++ limit.text ++ "ms"
  timedOut := true
  durationMs := limit

def succeeded (o : ProcessOutput) : Bool := o.exitCode = 0 && !o.timedOut

/-- Both streams, on lines of their own if both have text. -/
def combined (o : ProcessOutput) : String :=
  if o.stderr.isEmpty then o.stdout
  else if o.stdout.isEmpty then o.stderr
  else o.stdout ++ "\n" ++ o.stderr

def withoutStreams (o : ProcessOutput) : ProcessOutput := { o with stdout := "", stderr := "" }

end ProcessOutput

abbrev Runner (σ : Type) :=
  String → RunOptions → FileSystem → σ → Except Failure ProcessOutput × FileSystem × σ

def Runner.recorded {σ : Type} (r : Runner σ) : Runner (σ × List String) :=
  fun command options files state =>
    match r command options files state.1 with
    | (result, files, inner) => (result, files, inner, state.2 ++ [command])

end BuildPipeline
