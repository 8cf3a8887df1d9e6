import BuildPipeline.QualityGate
import BuildPipeline.Run.Documents
import BuildPipeline.Run.Event
import BuildPipeline.Step.Classify
import BuildPipeline.Step.Standard

/-!
Running a pipeline: steps in order until one fails, then the quality gate unless one did, then the
report and its documents. A run has no failures of its own; each ends up in the report.
-/
namespace BuildPipeline

structure Pipeline (σ : Type) where
  settings : Settings
  runner : Runner σ
  steps : List (Handler σ)
  scrapers : Scrapers

namespace Pipeline
variable {σ : Type}

def ofSettings (settings : Settings) (runner : Runner σ) : Pipeline σ :=
  ⟨settings, runner, Handler.standardSteps, .ofSettings settings⟩

def context (p : Pipeline σ) : StepContext σ := ⟨p.settings, p.runner, p.scrapers⟩

structure Progress (σ : Type) where
  machine : Machine σ
  draft : Draft
  events : List Event

namespace Progress

def tell (s : Progress σ) (es : List Event) : Progress σ := { s with events := s.events ++ es }

def look (s : Progress σ) : Reading × Progress σ :=
  let (reading, clock) := s.machine.clock.look
  (reading, { s with machine := { s.machine with clock := clock } })

end Progress

/-- The detail that is recorded: the handler's, or the text of what kept it from finishing. -/
def recordedDetail : Except Failure StepRun → StepDetail
  | .ok run => run.detail
  | .error f => .message f.message

def recordedMetrics : Except Failure StepRun → List (String × Float)
  | .ok run => run.metrics
  | .error _ => []

def executeStep (p : Pipeline σ) (h : Handler σ) (index : Nat) (s : Progress σ) :
    StepResult × Progress σ :=
  let s := s.tell [.stepStarted h.name (Count.saturate index)]
  let (start, s) := s.look
  let (outcome, machine) := h.execute p.context s.machine
  let s := { s with machine := machine }
  let (stop, s) := s.look
  let result := outcome.result h.name
  let verdict := classify (p.settings.policies.policy h.kind) p.settings.minRecognizedTests result
  let step := StepResult.ofVerdict h.name start.moment (start.elapsed stop)
    (recordedDetail result) verdict
  let draft := (s.draft.recordMetrics (recordedMetrics result)).pushStep step
  (step, { s with draft := draft }.tell
    [.stepCompleted step.name step.status step.durationMs step.detail.summary])

def abort (s : Progress σ) (step : StepResult) (reason : String) : Progress σ :=
  { s with draft := s.draft.pushError (step.name ++ " failed: " ++ reason) }.tell
    [.phaseChanged .aborting, .pipelineAborted step.name reason]

/-- Executes handlers in order up to the first whose step fails. -/
def executeSteps (p : Pipeline σ) : List (Handler σ) → Nat → Progress σ → Progress σ
  | [], _, s => s
  | h :: rest, index, s =>
    match p.executeStep h index s with
    | (step, s) =>
      match step.errorMessage with
      | some reason => abort s step reason
      | none => executeSteps p rest (index + 1) s

/-- Evaluates the quality gate, unless a step failed. -/
def evaluateGate (p : Pipeline σ) (s : Progress σ) : Option GateVerdict × Progress σ :=
  if s.draft.hasFailure then (none, s)
  else
    let verdict := QualityGate.evaluate s.draft.metrics p.settings.thresholds
    let draft := s.draft.recordMetric Metric.passRate verdict.passRate
    (some verdict, { s with draft := draft }.tell
      [.qualityGateEvaluated verdict.passed verdict.violations])

def documentEvent (o : DocumentOutcome) : Event :=
  match o.error with
  | none => .reportWritten o.format o.path.text
  | some e => .reportFailed o.format e.message

structure Run (σ : Type) where
  report : Report
  documents : List DocumentOutcome
  events : List Event
  machine : Machine σ

def Run.exitCode (r : Run σ) (policy : ExitPolicy) : Nat := policy.exitCode r.report.status

def Run.document? (r : Run σ) (format : String) : Option DocumentOutcome :=
  r.documents.find? (·.format = format)

def begin (p : Pipeline σ) (metadata : Metadata) (machine : Machine σ) : Progress σ :=
  let (opened, clock) := machine.clock.look
  ⟨{ machine with clock := clock }, { metadata := metadata, opened := opened },
    [.pipelineStarted metadata.project metadata.runId (Count.saturate p.steps.length),
      .phaseChanged .running]⟩

/-- Settles the report and writes its documents. -/
def conclude (p : Pipeline σ) (s : Progress σ) : Run σ :=
  let (gate, s) := p.evaluateGate (s.tell [.phaseChanged .finalizing])
  let (closed, s) := s.look
  let report := s.draft.finalize gate closed
  let (documents, files) := report.writeAll p.settings.reportsPath s.machine.files
  let closing : List Event :=
    [.phaseChanged .finished, .pipelineFinished report.status report.buildTimeMs]
  ⟨report, documents, s.events ++ documents.map documentEvent ++ closing,
    { s.machine with files := files }⟩

def run (p : Pipeline σ) (metadata : Metadata) (machine : Machine σ) : Run σ :=
  p.conclude (p.executeSteps p.steps 0 (p.begin metadata machine))

end Pipeline
end BuildPipeline
