import BuildPipeline.Step.Basic

/-!
Steps around one command each: installation, audit, lint, tests and coverage.
-/
namespace BuildPipeline.Step
variable {σ : Type}

def install (ctx : StepContext σ) : Action σ StepRun := do
  let output ← ctx.command .install ctx.settings.commands.install
  let manifest ← Action.look (·.readText (ctx.path ctx.settings.manifest))
  let counts := match manifest with
    | .ok text => Scrape.dependencies text
    | .error _ => (0, 0)
  return .ofFailure (.install ⟨counts.1, counts.2, output.exitCode⟩) (exitFailure? output)

def detailRoom : Nat := 2000

def audit (ctx : StepContext σ) : Action σ StepRun := do
  let output ← ctx.command .audit ctx.settings.commands.audit
  let text := output.combined
  let kept := Text.truncate .headTail detailRoom (Text.trimmed text)
  return .ofFailure (.audit ⟨ctx.scrapers.audit.scrape text, output.exitCode, kept⟩)
    (exitFailure? output)

def lint (ctx : StepContext σ) : Action σ StepRun := do
  let output ← ctx.command .lint ctx.settings.commands.lint
  let text := output.combined
  let counts := ctx.scrapers.lint.scrape text
  let kept := Text.truncate .tail detailRoom (Text.trimmed text)
  return .ofFailure (.lint ⟨counts.errors, counts.warnings, output.exitCode, kept⟩)
    (exitFailure? output)

def testMetrics (c : TestCounts) : List (String × Float) :=
  [(Metric.testsPassed, c.passed.toFloat), (Metric.testsFailed, c.failed.toFloat),
    (Metric.testsSkipped, c.skipped.toFloat), (Metric.testsTotal, c.total.toFloat)]

/-- What is reported of a test run; failing tests count also if the command says it succeeded. -/
def testRun (counts : TestCounts) (output : ProcessOutput) : StepRun :=
  let failing :=
    if 0 < counts.failed then some (counts.failed.text ++ " failing tests") else none
  let run := StepRun.ofFailure (.tests ⟨counts, output.exitCode⟩)
    ((exitFailure? output).or failing)
  run.withMetrics (testMetrics counts)

@[simp] theorem detail_testRun (counts : TestCounts) (output : ProcessOutput) :
    (testRun counts output).detail = .tests ⟨counts, output.exitCode⟩ := StepRun.detail_ofFailure

@[simp] theorem metrics_testRun (counts : TestCounts) (output : ProcessOutput) :
    (testRun counts output).metrics = testMetrics counts := by
  simp [testRun, StepRun.withMetrics]

def tests (ctx : StepContext σ) : Action σ StepRun := do
  let output ← ctx.command .tests ctx.settings.commands.test
  return testRun (ctx.scrapers.tests.scrape output.combined) output

def coverageMetrics (s : CoverageSummary) : List (String × Float) :=
  s.entries.map fun e => (Metric.coverage e.1, e.2)

/-- Runs the coverage command, unless it is blank. -/
def coverageCommand (ctx : StepContext σ) : Action σ (Option ProcessOutput) := do
  if (Text.trimmed ctx.settings.commands.coverage).isEmpty then return none
  else return some (← ctx.command .coverage ctx.settings.commands.coverage)

def coverage (ctx : StepContext σ) : Action σ StepRun := do
  let output ← coverageCommand ctx
  let source := ctx.settings.coverageSummary
  let text ← Action.look (·.readText (ctx.path source))
  let summary := match text with
    | .ok text => ctx.scrapers.coverage.scrape text
    | .error _ => none
  let exitCode := match output with
    | some o => o.exitCode
    | none => 0
  let run := StepRun.ofFailure
    (.coverage ⟨summary.getD .zero, source, summary.isSome, exitCode⟩)
    (output.bind exitFailure?)
  return run.withMetrics (match summary with
    | some s => coverageMetrics s
    | none => [])

end BuildPipeline.Step
