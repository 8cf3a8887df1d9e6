import BuildPipeline.Step.Artifacts
import BuildPipeline.Step.Commands
import BuildPipeline.Step.Environment

/-!
The standard handlers, one for each kind of step.
-/
namespace BuildPipeline
variable {σ : Type}

def Handler.standard : StepKind → Handler σ
  | .environment => .ofAction .environment Step.environment
  | .install => .ofAction .install Step.install
  | .audit => .ofAction .audit Step.audit
  | .lint => .ofAction .lint Step.lint
  | .tests => .ofAction .tests Step.tests
  | .coverage => .ofAction .coverage Step.coverage
  | .artifacts => .ofAction .artifacts Step.artifacts

def Handler.standardSteps : List (Handler σ) := StepKind.sequence.map Handler.standard

end BuildPipeline
