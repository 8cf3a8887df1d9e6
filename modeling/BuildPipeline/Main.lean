import BuildPipeline.CommandLine.Program
import BuildPipeline.CommandLine.Snapshot
import BuildPipeline.Run.Identifier

/-!
The command line. The project is read from standard input as a document of paths and texts. What the
program prints goes to standard output; messages, and then a document of the files it wrote, go to
standard error.
-/
namespace BuildPipeline.CommandLine

partial def readAll (input : IO.FS.Stream) (before : String) : IO String := do
  let line ← input.getLine
  if line.isEmpty then return before else readAll input (before ++ line)

def variableNames : List String := Environment.alwaysKept ++ ["CADENCE_REVISION", "BUILD_NUMBER"]

def readEnvironment : IO (SortedMap String) :=
  variableNames.foldlM
    (fun found name => do
      match ← IO.getEnv name with
      | some value => return found.insert name value
      | none => return found)
    .empty

/-- The moment of a run: given in seconds since 1970 by a variable, or else their beginning. -/
def readMoment : IO Timestamp := do
  match (← IO.getEnv "SOURCE_DATE_EPOCH").bind String.toNat? with
  | some seconds => return ⟨seconds / 86400, seconds % 86400, 0⟩
  | none => return .epoch

def carryOut (arguments : List String) (files : FileSystem) : IO UInt32 := do
  let surroundings : Surroundings := {
    files := files
    environment := ← readEnvironment
    clock := .still (← readMoment)
    runId := RunId.ofRandom (← IO.rand 0 (Nat.pow 2 RunId.bits - 1))
    words := fun _ => "not a document of the expected form" }
  let outcome := surroundings.execute arguments
  IO.print outcome.stdout
  outcome.complaint.forM IO.eprintln
  match Snapshot.changes files outcome.files with
  | .object [] => pure ()
  | changes => IO.eprintln changes.render
  return UInt32.ofNat outcome.exitCode

end BuildPipeline.CommandLine

def main (arguments : List String) : IO UInt32 := do
  match BuildPipeline.CommandLine.Snapshot.read?
      (← BuildPipeline.CommandLine.readAll (← IO.getStdin) "") with
  | some files => BuildPipeline.CommandLine.carryOut arguments files
  | none =>
    IO.eprintln "error: standard input does not describe a project"
    return 2
