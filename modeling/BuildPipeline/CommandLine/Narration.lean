import BuildPipeline.Decimal.Notation
import BuildPipeline.Run.Event

/-!
Lines for people: what a run tells while it lasts, and a report told in short.
-/
namespace BuildPipeline

def Count.seconds (milliseconds : Count) : String :=
  Decimal.fixed 1 (milliseconds.toFloat / 1000) ++ "s"

def StepStatus.column (s : StepStatus) : String :=
  s.text ++ String.ofList (List.replicate (8 - s.text.length) ' ')

def Event.remark (summary : String) : String :=
  if summary.isEmpty then "" else " - " ++ summary

/-- What is told of an event; most changes of phase pass silently. -/
def Event.narration? : Event → Option String
  | .pipelineStarted project runId stepCount =>
    some ("Running pipeline for " ++ project ++ " (" ++ stepCount.text ++ " steps, run " ++ runId ++
      ")")
  | .phaseChanged .finalizing => some "Finalizing report..."
  | .phaseChanged _ => none
  | .stepStarted step index =>
    some ("[" ++ toString (index.toNat + 1) ++ "] " ++ step ++ "...")
  | .stepCompleted step status durationMs summary =>
    some ("    " ++ status.column ++ " " ++ step ++ " (" ++ durationMs.seconds ++ ")" ++
      Event.remark summary)
  | .pipelineAborted step reason => some ("Aborting: " ++ step ++ " failed: " ++ reason)
  | .qualityGateEvaluated true _ => some "Quality gate passed"
  | .qualityGateEvaluated false violations =>
    some (String.join ("Quality gate violations:" :: violations.map ("\n  - " ++ ·)))
  | .reportWritten format path => some ("Wrote " ++ format ++ " report: " ++ path)
  | .reportFailed format error => some ("Could not write " ++ format ++ " report: " ++ error)
  | .pipelineFinished status buildTimeMs =>
    some ("Pipeline " ++ status.text ++ " in " ++ buildTimeMs.seconds)

namespace Report

def listed (items : List String) : List String := items.map ("  - " ++ ·)

def stepLine (s : StepResult) : String :=
  let error := match s.errorMessage with
    | some message => " [" ++ message ++ "]"
    | none => ""
  "  " ++ s.status.column ++ " " ++ s.name ++ Event.remark s.detail.summary ++ error

def metricLines (r : Report) : List String :=
  if r.metrics.isEmpty then []
  else "\nMetrics:" ::
    r.metrics.entries.map fun m => "  " ++ m.1 ++ " = " ++ Decimal.plain m.2

def gateLines (r : Report) : List String :=
  match r.qualityGate with
  | none => ["\nQuality gate: not evaluated"]
  | some gate =>
    if gate.passed then ["\nQuality gate: passed"]
    else "\nQuality gate: violated" :: listed gate.violations

def errorLines (r : Report) : List String :=
  if r.errors.isEmpty then [] else "\nErrors:" :: listed r.errors

def summaryLines (r : Report) : List String :=
  ["Project: " ++ r.project, "Status: " ++ r.status.text,
    "Run: " ++ r.runId ++ " at " ++ r.timestamp.offsetText] ++
  r.revision.toList.map ("Revision: " ++ ·) ++
  r.buildNumber.toList.map ("Build: " ++ ·) ++
  ["Build time: " ++ r.buildTimeMs.seconds, "\nSteps:"] ++
  r.steps.map stepLine ++ r.metricLines ++ r.gateLines ++ r.errorLines

end Report
end BuildPipeline
