import BuildPipeline.Report.Codec

/-!
What a run tells about its progress, and channels that carry it to listeners.
-/
namespace BuildPipeline

open Json

inductive Phase
  | running
  | aborting
  | finalizing
  | finished
  deriving DecidableEq, Repr

namespace Phase

def text : Phase → String
  | .running => "RUNNING"
  | .aborting => "ABORTING"
  | .finalizing => "FINALIZING"
  | .finished => "FINISHED"

def all : List Phase := [.running, .aborting, .finalizing, .finished]

def toJson (p : Phase) : Json := .string p.text

def reader : Reader Phase := Reader.choice (all.map fun p => (p.text, p))

end Phase

inductive Event
  | pipelineStarted (project runId : String) (stepCount : Count)
  | phaseChanged (phase : Phase)
  | stepStarted (step : String) (index : Count)
  | stepCompleted (step : String) (status : StepStatus) (durationMs : Count) (summary : String)
  | pipelineAborted (step reason : String)
  | qualityGateEvaluated (passed : Bool) (violations : List String)
  | reportWritten (format path : String)
  | reportFailed (format error : String)
  | pipelineFinished (status : PipelineStatus) (buildTimeMs : Count)
  deriving DecidableEq

namespace Event

def phase? : Event → Option Phase
  | .phaseChanged p => some p
  | _ => none

def name : Event → String
  | .pipelineStarted .. => "PipelineStarted"
  | .phaseChanged _ => "PhaseChanged"
  | .stepStarted .. => "StepStarted"
  | .stepCompleted .. => "StepCompleted"
  | .pipelineAborted .. => "PipelineAborted"
  | .qualityGateEvaluated .. => "QualityGateEvaluated"
  | .reportWritten .. => "ReportWritten"
  | .reportFailed .. => "ReportFailed"
  | .pipelineFinished .. => "PipelineFinished"

def members : Event → List (String × Json)
  | .pipelineStarted project runId stepCount =>
    [("project", .string project), ("run_id", .string runId), ("step_count", ofCount stepCount)]
  | .phaseChanged phase => [("phase", phase.toJson)]
  | .stepStarted step index => [("step", .string step), ("index", ofCount index)]
  | .stepCompleted step status durationMs summary =>
    [("step", .string step), ("status", status.toJson), ("duration_ms", ofCount durationMs),
      ("summary", .string summary)]
  | .pipelineAborted step reason => [("step", .string step), ("reason", .string reason)]
  | .qualityGateEvaluated passed violations =>
    [("passed", .bool passed), ("violations", ofTexts violations)]
  | .reportWritten format path => [("format", .string format), ("path", .string path)]
  | .reportFailed format error => [("format", .string format), ("error", .string error)]
  | .pipelineFinished status buildTimeMs =>
    [("status", status.toJson), ("build_time_ms", ofCount buildTimeMs)]

def toJson (e : Event) : Json := .object [(e.name, .object e.members)]

def readNamed (name : String) (j : Json) : Option Event :=
  match name with
  | "PipelineStarted" => do
    let f ← fields? ["project", "run_id", "step_count"] j
    return .pipelineStarted (← f.required "project" Reader.text)
      (← f.required "run_id" Reader.text) (← f.required "step_count" Reader.count)
  | "PhaseChanged" => do
    let f ← fields? ["phase"] j
    return .phaseChanged (← f.required "phase" Phase.reader)
  | "StepStarted" => do
    let f ← fields? ["step", "index"] j
    return .stepStarted (← f.required "step" Reader.text) (← f.required "index" Reader.count)
  | "StepCompleted" => do
    let f ← fields? ["step", "status", "duration_ms", "summary"] j
    return .stepCompleted (← f.required "step" Reader.text)
      (← f.required "status" StepStatus.reader) (← f.required "duration_ms" Reader.count)
      (← f.required "summary" Reader.text)
  | "PipelineAborted" => do
    let f ← fields? ["step", "reason"] j
    return .pipelineAborted (← f.required "step" Reader.text) (← f.required "reason" Reader.text)
  | "QualityGateEvaluated" => do
    let f ← fields? ["passed", "violations"] j
    return .qualityGateEvaluated (← f.required "passed" Reader.flag)
      (← f.required "violations" (Reader.list Reader.text))
  | "ReportWritten" => do
    let f ← fields? ["format", "path"] j
    return .reportWritten (← f.required "format" Reader.text) (← f.required "path" Reader.text)
  | "ReportFailed" => do
    let f ← fields? ["format", "error"] j
    return .reportFailed (← f.required "format" Reader.text) (← f.required "error" Reader.text)
  | "PipelineFinished" => do
    let f ← fields? ["status", "build_time_ms"] j
    return .pipelineFinished (← f.required "status" PipelineStatus.reader)
      (← f.required "build_time_ms" Reader.count)
  | _ => none

def reader : Reader Event
  | .object [(name, j)] => readNamed name j
  | _ => none

def parse? (text : String) : Option Event := (Json.parse? text).bind reader

end Event

/-- A channel with everything emitted so far and, for each listener, how much of it lies behind. -/
structure Channel where
  emitted : List Event := []
  positions : List Nat := []

namespace Channel

def emit (c : Channel) (e : Event) : Channel := { c with emitted := c.emitted ++ [e] }

def emitAll (c : Channel) (es : List Event) : Channel := { c with emitted := c.emitted ++ es }

/-- Adds a listener, who hears what is emitted from now on. -/
def subscribe (c : Channel) : Channel :=
  { c with positions := c.positions ++ [c.emitted.length] }

def receive (c : Channel) (listener : Nat) : Option Event × Channel :=
  match c.positions[listener]? with
  | none => (none, c)
  | some position => match c.emitted[position]? with
    | none => (none, c)
    | some e => (some e, { c with positions := c.positions.set listener (position + 1) })

end Channel
end BuildPipeline
