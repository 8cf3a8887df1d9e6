/-!
How a step and a whole run ended.
-/
namespace BuildPipeline

inductive StepStatus
  | success
  | warning
  | partly
  | failed
  deriving DecidableEq, Repr, Inhabited

def StepStatus.text : StepStatus → String
  | .success => "SUCCESS"
  | .warning => "WARNING"
  | .partly => "PARTIAL"
  | .failed => "FAILED"

def StepStatus.all : List StepStatus := [.success, .warning, .partly, .failed]

/-- How a step ended; only a failure has a reason. -/
inductive Verdict
  | success
  | warning
  | partly
  | failed (reason : String)
  deriving DecidableEq, Repr

namespace Verdict

def status : Verdict → StepStatus
  | .success => .success
  | .warning => .warning
  | .partly => .partly
  | .failed _ => .failed

def reason? : Verdict → Option String
  | .failed reason => some reason
  | _ => none

theorem reason?_isSome_iff {v : Verdict} : v.reason?.isSome ↔ v.status = .failed := by
  cases v <;> simp [reason?, status]

end Verdict

inductive PipelineStatus
  | success
  | partly
  | failed
  deriving DecidableEq, Repr, Inhabited

def PipelineStatus.text : PipelineStatus → String
  | .success => "SUCCESS"
  | .partly => "PARTIAL"
  | .failed => "FAILED"

end BuildPipeline
