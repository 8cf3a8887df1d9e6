import BuildPipeline.Step.Basic

/-!
From a step's outcome to its verdict.
-/
namespace BuildPipeline

namespace StepOutcome

def failure? (name : String) : StepOutcome → Option Failure
  | .finished _ => none
  | .error f => some f
  | .panicked message => some (.stepPanicked name (message.getD "unknown panic"))

def result (name : String) : StepOutcome → Except Failure StepRun
  | .finished run => .ok run
  | .error f => .error f
  | .panicked message => .error (.stepPanicked name (message.getD "unknown panic"))

end StepOutcome

namespace StepRun

def reason (r : StepRun) : String := r.failure.getD "step did not succeed"

end StepRun

/-- A failure always fails the step. A step that did not succeed fails it if the policy is fatal;
otherwise it leaves a warning, or a partial success if tests ran. Test output with too few tests
in it could not be read, which is a failure under any policy. -/
def classify (policy : FailurePolicy) (minRecognizedTests : Count) :
    Except Failure StepRun → Verdict
  | .error f => .failed f.reason
  | .ok run =>
    if run.succeeded then .success
    else match run.detail.testCounts? with
      | some counts =>
        if counts.total < minRecognizedTests then
          .failed (Failure.unrecognizedOutput "test" counts.total minRecognizedTests).message
        else match policy with
          | .tolerant => .partly
          | .fatal => .failed run.reason
      | none => match policy with
        | .tolerant => .warning
        | .fatal => .failed run.reason

end BuildPipeline
