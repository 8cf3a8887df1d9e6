import BuildPipeline.Command.Basic
import BuildPipeline.Command.Environment
import BuildPipeline.Text.Lossy

/-!
A runner that has commands carried out by a shell in the project's folder, with the variables of the
process but for its secrets. Which shell that is, is left open.
-/
namespace BuildPipeline

structure ShellEnd where
  stdout : ByteArray
  stderr : ByteArray
  /-- In milliseconds. -/
  elapsed : Nat
  overdue : Bool
  /-- The code it exited with, unless a signal ended it. -/
  exitCode : Option Nat

/-- A shell takes a command's text, the folder to work in, variables, a time limit in milliseconds
and the files. It tells what it came to, or why it could not be started, and leaves files. -/
abbrev CommandShell :=
  String → Path → SortedMap String → Count → FileSystem → Except String ShellEnd × FileSystem

structure LocalHost where
  workingDir : Path
  environment : SortedMap String := .empty

namespace LocalHost

def folder (h : LocalHost) (options : RunOptions) : Path :=
  match options.cwd with
  | some p => h.workingDir.join p
  | none => h.workingDir

/-- A limit that passed counts as exit code -1, and so does a signal. -/
def output (options : RunOptions) (e : ShellEnd) : ProcessOutput :=
  let stdout := if options.captureOutput then Text.decodeLossy e.stdout else ""
  let stderr := if options.captureOutput then Text.decodeLossy e.stderr else ""
  let duration := Count.saturate e.elapsed
  if e.overdue then
    let timeout := ProcessOutput.timeout options.limit
    { timeout with
      stdout := stdout
      stderr := if stderr.isEmpty then timeout.stderr else stderr ++ "\n" ++ timeout.stderr
      durationMs := duration }
  else
    { exitCode := (e.exitCode.map Int32.ofNat).getD (-1)
      stdout := stdout
      stderr := stderr
      durationMs := duration }

def runnerIn (h : LocalHost) (shell : CommandShell) : Runner Unit :=
  fun command options files state =>
    let env := Environment.ofCommand h.environment options.env
    match shell command (h.folder options) env options.limit files with
    | (.error fault, files) => (.error (.spawnFailed command fault), files, state)
    | (.ok e, files) => (.ok (output options e), files, state)

end LocalHost
end BuildPipeline
