import BuildPipeline.Command.Basic
import BuildPipeline.Report.Basic
import BuildPipeline.Scrape.Scrapers
import BuildPipeline.Text.Truncation

/-!
Steps: what they may touch and what they report. An action changes the surroundings of a run and may
fail; a handler turns the work of one step into an outcome.
-/
namespace BuildPipeline

structure Machine (σ : Type) where
  files : FileSystem
  runner : σ
  clock : Clock

structure StepRun where
  succeeded : Bool := false
  detail : StepDetail := .none
  metrics : List (String × Float) := []
  /-- Why the step did not succeed. -/
  failure : Option String := none
  deriving DecidableEq

namespace StepRun

def passed (detail : StepDetail) : StepRun := { succeeded := true, detail := detail }

def failed (detail : StepDetail) (reason : String) : StepRun :=
  { detail := detail, failure := some reason }

def ofFailure (detail : StepDetail) : Option String → StepRun
  | none => passed detail
  | some reason => failed detail reason

def withMetrics (r : StepRun) (metrics : List (String × Float)) : StepRun :=
  { r with metrics := r.metrics ++ metrics }

section
variable {detail : StepDetail} {failure : Option String}

theorem succeeded_ofFailure : (ofFailure detail failure).succeeded = true ↔ failure = none := by
  cases failure <;> simp [ofFailure, passed, failed]

@[simp] theorem detail_ofFailure : (ofFailure detail failure).detail = detail := by
  cases failure <;> rfl

@[simp] theorem failure_ofFailure : (ofFailure detail failure).failure = failure := by
  cases failure <;> rfl

@[simp] theorem metrics_ofFailure : (ofFailure detail failure).metrics = [] := by
  cases failure <;> rfl

@[simp] theorem succeeded_withMetrics (run : StepRun) (metrics : List (String × Float)) :
    (run.withMetrics metrics).succeeded = run.succeeded := rfl

end

end StepRun

inductive StepOutcome
  | finished (run : StepRun)
  | error (failure : Failure)
  /-- The handler broke down, with a message unless it left something else. -/
  | panicked (message : Option String)
  deriving DecidableEq

abbrev Action (σ : Type) := ExceptT Failure (StateM (Machine σ))

namespace Action
variable {σ α : Type}

def look (f : FileSystem → α) : Action σ α := fun m => (.ok (f m.files), m)

def files (f : FileSystem → FileSystem.Outcome α) : Action σ α := fun m =>
  match f m.files with
  | (.ok a, fs) => (.ok a, { m with files := fs })
  | (.error e, fs) => (.error (.io e), { m with files := fs })

def read (f : FileSystem → Except Failure α) : Action σ α := fun m => (f m.files, m)

end Action

structure StepContext (σ : Type) where
  settings : Settings
  runner : Runner σ
  scrapers : Scrapers

namespace StepContext
variable {σ : Type}

def options (s : Settings) (kind : StepKind) : RunOptions where
  limit := s.timeouts.limit kind
  captureOutput := s.captureOutput
  cwd := some s.workingDir
  env := s.env

/-- Runs a command for a step. A timeout is an error, so that it cannot pass for an exit code. -/
def command (ctx : StepContext σ) (kind : StepKind) (command : String) : Action σ ProcessOutput :=
  fun m =>
    match ctx.runner command (options ctx.settings kind) m.files m.runner with
    | (result, files, runner) =>
      let m := { m with files := files, runner := runner }
      match result with
      | .error e => (.error e, m)
      | .ok output =>
        if output.timedOut then
          (.error (.commandTimeout command (ctx.settings.timeouts.limit kind)), m)
        else (.ok output, m)

def path (ctx : StepContext σ) (relative : String) : Path := ctx.settings.resolve ⟨relative⟩

end StepContext

def reasonRoom : Nat := 400

def exitReason (o : ProcessOutput) : String :=
  let tail := Text.trimmed o.combined
  "exited with code " ++ exitCodeText o.exitCode ++
    (if tail.isEmpty then "" else ": " ++ Text.truncate .tail reasonRoom tail)

def exitFailure? (o : ProcessOutput) : Option String :=
  if o.succeeded then none else some (exitReason o)

theorem exitFailure?_eq_none_iff {o : ProcessOutput} :
    exitFailure? o = none ↔ o.succeeded = true := by
  unfold exitFailure?
  split <;> simp_all

theorem exitFailure?_of_not_timedOut {o : ProcessOutput} (h : o.timedOut = false) :
    exitFailure? o = if o.exitCode = 0 then none else some (exitReason o) := by
  unfold exitFailure? ProcessOutput.succeeded
  simp [h]

structure Handler (σ : Type) where
  kind : StepKind
  name : String
  execute : StepContext σ → Machine σ → StepOutcome × Machine σ

/-- A handler that works by an action, under its kind's name. -/
def Handler.ofAction {σ : Type} (kind : StepKind) (action : StepContext σ → Action σ StepRun) :
    Handler σ where
  kind := kind
  name := kind.displayName
  execute ctx m :=
    match action ctx m with
    | (.ok run, m) => (.finished run, m)
    | (.error e, m) => (.error e, m)

end BuildPipeline
