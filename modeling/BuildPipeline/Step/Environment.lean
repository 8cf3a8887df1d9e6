import BuildPipeline.Step.Basic
import BuildPipeline.Text.Lines

/-!
Environment validation: every tool answers with its version, and the project's files are there.
-/
namespace BuildPipeline.Step
variable {σ : Type}

def version (o : ProcessOutput) : String :=
  String.ofList (Text.trim ((Text.lines o.stdout.toList).headD []))

structure ToolChecks where
  tools : SortedMap String := .empty
  fault : Option String := none

/-- A later answer to the same command replaces its version; the first fault stays. -/
def ToolChecks.add (c : ToolChecks) (command : String) (o : ProcessOutput) : ToolChecks where
  tools := c.tools.insert command (version o)
  fault := c.fault.or ((exitFailure? o).map fun reason => "'" ++ command ++ "' " ++ reason)

/-- Runs every check, also after a fault. -/
def checkTools (ctx : StepContext σ) (commands : List String) : Action σ ToolChecks :=
  commands.foldlM
    (fun checks command => do
      let output ← ctx.command .environment command
      return checks.add command output)
    {}

def environment (ctx : StepContext σ) : Action σ StepRun := do
  let settings := ctx.settings
  let checks ← checkTools ctx settings.commands.environment
  let manifestPresent ← Action.look (·.existsAt (ctx.path settings.manifest))
  let configPresent ← Action.look fun fs =>
    settings.configFile.any fun file => fs.existsAt (ctx.path file)
  let missing :=
    if manifestPresent then none else some (Failure.missingFile settings.manifest).message
  let detail : EnvironmentDetail :=
    ⟨checks.tools, settings.manifest, manifestPresent, settings.configFile, configPresent⟩
  return .ofFailure (.environment detail) (checks.fault.or missing)

end BuildPipeline.Step
