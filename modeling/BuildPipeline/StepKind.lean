/-!
The kinds of steps.
-/
namespace BuildPipeline

inductive StepKind
  | environment
  | install
  | audit
  | lint
  | tests
  | coverage
  | artifacts
  deriving DecidableEq, Repr

namespace StepKind

def sequence : List StepKind :=
  [.environment, .install, .audit, .lint, .tests, .coverage, .artifacts]

def displayName : StepKind → String
  | .environment => "Environment validation"
  | .install => "Dependency installation"
  | .audit => "Security audit"
  | .lint => "Lint"
  | .tests => "Test execution"
  | .coverage => "Coverage report"
  | .artifacts => "Artifact creation"

def key : StepKind → String
  | .environment => "environment"
  | .install => "install"
  | .audit => "audit"
  | .lint => "lint"
  | .tests => "tests"
  | .coverage => "coverage"
  | .artifacts => "artifacts"

def runsTests : StepKind → Bool
  | .tests | .coverage => true
  | _ => false

end StepKind
end BuildPipeline
