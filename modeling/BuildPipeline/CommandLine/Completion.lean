import BuildPipeline.Command.Host
import BuildPipeline.Command.Scripted
import BuildPipeline.CommandLine.Arguments
import BuildPipeline.CommandLine.Narration
import BuildPipeline.Run.Pipeline
import BuildPipeline.Scrape.Documents
import BuildPipeline.Settings.Load
import BuildPipeline.Settings.Validation

/-!
Requests carried out on files, with the lines that are printed and the exit code. Neither the shell
that commands are given to nor the words of the library for documents is fixed here.
-/
namespace BuildPipeline

/-- The message, and once more what lies behind a failed file operation. -/
def Failure.messageWithCause : Failure → String
  | .io error => (Failure.io error).message ++ ": " ++ error.message
  | f => f.message

/-- The project's name: the one in the settings, else the manifest's, else its folder's. -/
def Settings.displayName (s : Settings) (fs : FileSystem) : String :=
  let manifest := (fs.readText (s.resolve ⟨s.manifest⟩)).toOption
  let folder := (fs.canonical s.workingDir).toOption
  ((s.projectName.or (manifest.bind Scrape.projectName?)).or
    (folder.bind List.getLast?)).getD "project"

namespace CommandLine

def Overrides.apply (o : Overrides) (s : Settings) : Settings :=
  { s with
    workingDir := o.workingDir.getD s.workingDir
    reportsDir := o.reportsDir.getD s.reportsDir
    projectName := o.projectName.or s.projectName
    exitPolicy := if o.strict then .strict else s.exitPolicy }

/-- The settings in a file, or the defaults without one. -/
def loadSettings (words : String → String) (file : Option Path) (fs : FileSystem) :
    Except Failure Settings :=
  match file with
  | some p => Settings.load fs p words
  | none => .ok {}

structure Completion (σ : Type) where
  exitCode : Nat
  lines : List String
  report : Report
  documents : List DocumentOutcome
  machine : Machine σ

namespace RunRequest
variable {σ : Type}

/-- The settings of a run, and why they are rejected if they are. If the file is no use, the
defaults stand in for it, so that there is a place for the report. -/
def settings (r : RunRequest) (words : String → String) (fs : FileSystem) :
    Settings × Option Failure :=
  match loadSettings words r.settingsFile fs with
  | .error e => (r.overrides.apply {}, some e)
  | .ok s =>
    let s := r.overrides.apply s
    (s, s.fault?.map Failure.config)

def metadata (r : RunRequest) (s : Settings) (runId : String) (fs : FileSystem) : Metadata :=
  ⟨s.displayName fs, r.revision, r.buildNumber, runId⟩

/-- A run that does not begin: the report has no step and one error. -/
def reject (s : Settings) (metadata : Metadata) (fault : Failure) (machine : Machine σ) :
    Completion σ :=
  let (opened, clock) := machine.clock.look
  let (closed, clock) := clock.look
  let draft : Draft := { metadata := metadata, opened := opened }
  let report := (draft.pushError ("Configuration failed: " ++ fault.messageWithCause)).finalize
    none closed
  let (documents, files) := report.writeAll s.reportsPath machine.files
  let told := documents.filterMap fun d => (Pipeline.documentEvent d).narration?
  ⟨1, ("[ERROR] " ++ fault.messageWithCause) :: told, report, documents,
    { machine with files := files, clock := clock }⟩

def announcement (r : RunRequest) : List String :=
  if r.rehearse then ["(rehearsal: commands are not executed)"] else []

def complete (r : RunRequest) (words : String → String) (runId : String) (runner : Runner σ)
    (machine : Machine σ) : Completion σ :=
  let (s, fault) := r.settings words machine.files
  let metadata := r.metadata s runId machine.files
  match fault with
  | some fault => reject s metadata fault machine
  | none =>
    let run := (Pipeline.ofSettings s runner).run metadata machine
    ⟨run.exitCode s.exitPolicy, r.announcement ++ run.events.filterMap Event.narration?,
      run.report, run.documents, run.machine⟩

end RunRequest

structure Surroundings where
  files : FileSystem
  environment : SortedMap String := .empty
  clock : Clock
  runId : String
  /-- What the library for documents says of a text that is no settings document, or no report. -/
  words : String → String := fun _ => ""

structure Outcome where
  exitCode : Nat
  lines : List String := []
  complaint : Option String := none
  files : FileSystem

def Outcome.stdout (o : Outcome) : String := String.join (o.lines.map (· ++ "\n"))

def Completion.outcome {σ : Type} (c : Completion σ) : Outcome where
  exitCode := c.exitCode
  lines := c.lines
  files := c.machine.files

/-- What lies behind a failure is told below it: a failed file operation, or the words of the
library on a text that is no document. -/
def Outcome.failed (f : Failure) (words : String) (files : FileSystem) : Outcome :=
  let below (cause : String) : String := "\n\nCaused by:\n    " ++ cause
  let complaint := match f with
    | .io error => f.message ++ below error.message
    | .json => f.message ++ ": " ++ words ++ below words
    | _ => f.message
  { exitCode := 1, complaint := some ("Error: " ++ complaint), files := files }

namespace Surroundings

/-- Commands are given to a shell in the working folder; in a rehearsal none is. -/
def run (w : Surroundings) (shell : CommandShell) (r : RunRequest) : Outcome :=
  if r.rehearse then
    (r.complete w.words w.runId Script.runner ⟨w.files, Script.lenient, w.clock⟩).outcome
  else
    let host : LocalHost := ⟨⟨"/" ++ (Path.ofNames w.files.workingFolder).text⟩, w.environment⟩
    (r.complete w.words w.runId (host.runnerIn shell) ⟨w.files, (), w.clock⟩).outcome

def validate (w : Surroundings) (file : Option Path) : Outcome :=
  match loadSettings w.words file w.files with
  | .error e => .failed e "" w.files
  | .ok s => match s.validate with
    | .ok () => { exitCode := 0, lines := [s.document, "Configuration is valid"], files := w.files }
    | .error e => { exitCode := 1, lines := ["[ERROR] " ++ e.message], files := w.files }

def summarize (w : Surroundings) (p : Path) : Outcome :=
  match Report.load w.files p with
  | .error e => .failed e (w.words ((w.files.readText p).toOption.getD "")) w.files
  | .ok r => { exitCode := 0, lines := r.summaryLines, files := w.files }

end Surroundings
end CommandLine
end BuildPipeline
