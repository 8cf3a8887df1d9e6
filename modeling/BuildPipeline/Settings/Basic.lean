import BuildPipeline.Count
import BuildPipeline.Path
import BuildPipeline.SortedMap
import BuildPipeline.StepKind
import BuildPipeline.Verdict

/-!
Settings of a run and their defaults.
-/
namespace BuildPipeline

inductive FailurePolicy
  | fatal
  | tolerant
  deriving DecidableEq, Repr

structure PolicyTable where
  environment : FailurePolicy := .fatal
  install : FailurePolicy := .fatal
  audit : FailurePolicy := .tolerant
  lint : FailurePolicy := .tolerant
  tests : FailurePolicy := .tolerant
  coverage : FailurePolicy := .tolerant
  artifacts : FailurePolicy := .fatal
  deriving DecidableEq

def PolicyTable.policy (t : PolicyTable) : StepKind → FailurePolicy
  | .environment => t.environment
  | .install => t.install
  | .audit => t.audit
  | .lint => t.lint
  | .tests => t.tests
  | .coverage => t.coverage
  | .artifacts => t.artifacts

/-- Time limits in milliseconds. -/
structure Timeouts where
  build : Count := 300000
  test : Count := 600000
  deriving DecidableEq

/-- Steps that run tests have a limit of their own. -/
def Timeouts.limit (t : Timeouts) (kind : StepKind) : Count :=
  if kind.runsTests then t.test else t.build

inductive Comparison
  | atLeast
  deriving DecidableEq

structure Threshold (α : Type) where
  value : α
  comparison : Comparison := .atLeast
  deriving DecidableEq

structure Thresholds (α : Type) where
  coverage : SortedMap (Threshold α)
  passRate : Threshold α
  deriving DecidableEq

namespace Thresholds

/-- The same threshold for the four coverage categories and the pass rate. -/
def uniform {α : Type} (value : α) : Thresholds α :=
  ⟨.ofList (["statements", "branches", "functions", "lines"].map fun c => (c, ⟨value, .atLeast⟩)),
    ⟨value, .atLeast⟩⟩

def default : Thresholds Float := { uniform 80 with passRate := ⟨90, .atLeast⟩ }

end Thresholds

structure Commands where
  /-- Tool checks, whose first line of output is a version. -/
  environment : List String := ["node --version", "npm --version"]
  install : String := "npm ci"
  audit : String := "npm audit --audit-level=moderate"
  lint : String := "npm run lint"
  test : String := "npm test"
  /-- If blank, an existing coverage summary is read without running anything. -/
  coverage : String := "npm run coverage"
  package : Option String := none
  deriving DecidableEq

structure ArtifactSettings where
  directory : String := "artifacts"
  patterns : List String := ["package.json", "dist/**"]
  deriving DecidableEq

inductive TestReporter
  | mocha
  | jest
  deriving DecidableEq

inductive ExitPolicy
  | tolerant
  | strict
  deriving DecidableEq

/-- A failed run exits with 1; a partial one with 2 if the policy is strict. -/
def ExitPolicy.exitCode : ExitPolicy → PipelineStatus → Nat
  | _, .failed => 1
  | .strict, .partly => 2
  | _, _ => 0

structure Settings where
  projectName : Option String := none
  workingDir : Path := ⟨"."⟩
  /-- Relative to the working directory unless absolute. -/
  reportsDir : Path := ⟨"reports"⟩
  manifest : String := "package.json"
  configFile : Option String := some "wdio.conf.js"
  coverageSummary : String := "coverage/coverage-summary.json"
  commands : Commands := {}
  policies : PolicyTable := {}
  timeouts : Timeouts := {}
  thresholds : Thresholds Float := .default
  artifacts : ArtifactSettings := {}
  testReporter : TestReporter := .mocha
  /-- A failing test run that shows fewer tests could not be read. -/
  minRecognizedTests : Count := 1
  captureOutput : Bool := true
  env : SortedMap String := .ofList [("CI", "true")]
  exitPolicy : ExitPolicy := .tolerant
  deriving DecidableEq

namespace Settings

def forDirectory (workingDir : Path) : Settings := { workingDir := workingDir }

def resolve (s : Settings) (p : Path) : Path := s.workingDir.join p

def reportsPath (s : Settings) : Path := s.resolve s.reportsDir

end Settings
end BuildPipeline
