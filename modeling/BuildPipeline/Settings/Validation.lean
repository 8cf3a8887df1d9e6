import BuildPipeline.Failure
import BuildPipeline.Settings.Basic
import BuildPipeline.StepDetail
import BuildPipeline.Text.Blank

/-!
Settings that no run could succeed with are rejected, the first fault being the one told.
-/
namespace BuildPipeline.Settings

def namedThresholds (s : Settings) : List (String × Float) :=
  s.thresholds.coverage.entries.map (fun e => (e.1, e.2.value)) ++
    [("pass_rate", s.thresholds.passRate.value)]

def isPercentage (x : Float) : Bool := 0 ≤ x && x ≤ 100

def fault? (s : Settings) : Option ConfigFault :=
  if s.timeouts.build = 0 ∨ s.timeouts.test = 0 then some .timeoutNotPositive
  else if s.commands.environment.isEmpty then some .noEnvironmentCheck
  else match s.namedThresholds.find? (fun t => !isPercentage t.2) with
    | some t => some (.thresholdOutOfRange t.1 t.2)
    | none =>
      match s.thresholds.coverage.keys.find? (!CoverageSummary.categories.contains ·) with
      | some category => some (.unknownCategory category)
      | none =>
        if (Text.trimmed s.artifacts.directory).isEmpty then some .noArtifactFolder else none

def validate (s : Settings) : Except Failure Unit :=
  match s.fault? with
  | some fault => .error (.config fault)
  | none => .ok ()

end BuildPipeline.Settings
