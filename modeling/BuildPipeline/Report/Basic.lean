import BuildPipeline.StepDetail
import BuildPipeline.Time.Clock
import BuildPipeline.Verdict

/-!
Reports. A draft takes steps, metrics and errors while a run lasts; finalizing it settles the
overall status.
-/
namespace BuildPipeline

structure StepResult where
  name : String
  status : StepStatus
  startedAt : Timestamp
  durationMs : Count
  detail : StepDetail
  errorMessage : Option String
  deriving DecidableEq, Inhabited

/-- A result with an error message exactly if the verdict is a failure. -/
def StepResult.ofVerdict (name : String) (startedAt : Timestamp) (durationMs : Count)
    (detail : StepDetail) (verdict : Verdict) : StepResult :=
  ⟨name, verdict.status, startedAt, durationMs, detail, verdict.reason?⟩

structure GateVerdict where
  passed : Bool
  passRate : Float
  violations : List String
  deriving DecidableEq

structure Metadata where
  project : String
  revision : Option String := none
  buildNumber : Option String := none
  runId : String
  deriving DecidableEq

structure Report where
  status : PipelineStatus
  timestamp : Timestamp
  project : String
  revision : Option String
  buildNumber : Option String
  runId : String
  buildTimeMs : Count
  steps : List StepResult
  metrics : SortedMap Float
  errors : List String
  qualityGate : Option GateVerdict
  deriving DecidableEq

namespace Report

def step? (r : Report) (name : String) : Option StepResult := r.steps.find? (·.name = name)

def metric? (r : Report) (name : String) : Option Float := r.metrics.get? name

def countStatus (r : Report) (status : StepStatus) : Nat := r.steps.countP (·.status = status)

end Report

/-- FAILED if a step failed, SUCCESS if every step succeeded without a violation, else PARTIAL. -/
def PipelineStatus.aggregate (steps : List StepResult) (violations : Nat) : PipelineStatus :=
  if steps.any (·.status = .failed) then .failed
  else if 0 < violations || steps.any (·.status ≠ .success) then .partly
  else .success

structure Draft where
  metadata : Metadata
  opened : Reading
  steps : List StepResult := []
  metrics : SortedMap Float := .empty
  errors : List String := []

namespace Draft

def pushStep (d : Draft) (s : StepResult) : Draft := { d with steps := d.steps ++ [s] }

/-- A later value of a metric replaces an earlier one. -/
def recordMetric (d : Draft) (name : String) (value : Float) : Draft :=
  { d with metrics := d.metrics.insert name value }

def recordMetrics (d : Draft) (values : List (String × Float)) : Draft :=
  { d with metrics := d.metrics.insertAll values }

def pushError (d : Draft) (message : String) : Draft := { d with errors := d.errors ++ [message] }

def hasFailure (d : Draft) : Bool := d.steps.any (·.status = .failed)

def status (d : Draft) (gate : Option GateVerdict) : PipelineStatus :=
  if d.errors.isEmpty then
    .aggregate d.steps (match gate with
      | some g => g.violations.length
      | none => 0)
  else .failed

/-- The finished report; any error makes it FAILED. -/
def finalize (d : Draft) (gate : Option GateVerdict) (closed : Reading) : Report where
  status := d.status gate
  timestamp := d.opened.moment
  project := d.metadata.project
  revision := d.metadata.revision
  buildNumber := d.metadata.buildNumber
  runId := d.metadata.runId
  buildTimeMs := d.opened.elapsed closed
  steps := d.steps
  metrics := d.metrics
  errors := d.errors
  qualityGate := gate

end Draft

/-! ### Names of recorded metrics -/

namespace Metric

def testsPassed : String := "tests.passed"

def testsFailed : String := "tests.failed"

def testsSkipped : String := "tests.skipped"

def testsTotal : String := "tests.total"

def passRate : String := "tests.pass_rate"

def coverage (category : String) : String := "coverage." ++ category

end Metric
end BuildPipeline
