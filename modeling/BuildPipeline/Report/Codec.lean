import BuildPipeline.Json.Document
import BuildPipeline.Json.Printer
import BuildPipeline.Json.Record
import BuildPipeline.Report.Basic

/-!
Reports as documents. Each record is written with all its fields in order; a step without an error
message leaves that field out.
-/
namespace BuildPipeline

open Json

namespace Json

def ofCount (c : Count) : Json := .integer c.toNat

def ofInt32 (n : Int32) : Json := .integer n.toInt

def ofOption {α : Type} (encode : α → Json) : Option α → Json
  | none => .null
  | some a => encode a

def ofTexts (texts : List String) : Json := .array (texts.map .string)

def ofMap {α : Type} (encode : α → Json) (m : SortedMap α) : Json :=
  .object (m.entries.map fun e => (e.1, encode e.2))

end Json

def Timestamp.reader : Reader Timestamp
  | .string s => Timestamp.read? s
  | _ => none

def Timestamp.toJson (t : Timestamp) : Json := .string t.documentText

def StepStatus.toJson (s : StepStatus) : Json := .string s.text

def StepStatus.reader : Reader StepStatus :=
  Reader.choice (StepStatus.all.map fun s => (s.text, s))

def PipelineStatus.all : List PipelineStatus := [.success, .partly, .failed]

def PipelineStatus.toJson (s : PipelineStatus) : Json := .string s.text

def PipelineStatus.reader : Reader PipelineStatus :=
  Reader.choice (PipelineStatus.all.map fun s => (s.text, s))

namespace TestCounts

def fieldNames : List String := ["passed", "failed", "skipped", "total"]

def toJson (c : TestCounts) : Json :=
  .object [("passed", ofCount c.passed), ("failed", ofCount c.failed),
    ("skipped", ofCount c.skipped), ("total", ofCount c.total)]

def reader : Reader TestCounts := fun j => do
  let f ← fields? fieldNames j
  return ⟨← f.required "passed" Reader.count, ← f.required "failed" Reader.count,
    ← f.required "skipped" Reader.count, ← f.required "total" Reader.count⟩

end TestCounts

namespace CoverageSummary

def toJson (s : CoverageSummary) : Json :=
  .object (s.entries.map fun e => (e.1, .double e.2))

def reader : Reader CoverageSummary := fun j => do
  let f ← fields? categories j
  return ⟨← f.required "statements" Reader.number, ← f.required "branches" Reader.number,
    ← f.required "functions" Reader.number, ← f.required "lines" Reader.number⟩

end CoverageSummary

namespace StepDetail

def kind : StepDetail → String
  | .none => "none"
  | .message _ => "message"
  | .environment _ => "environment"
  | .install _ => "install"
  | .audit _ => "audit"
  | .lint _ => "lint"
  | .tests _ => "tests"
  | .coverage _ => "coverage"
  | .artifacts _ => "artifacts"

def members : StepDetail → List (String × Json)
  | .none => []
  | .message text => [("text", .string text)]
  | .environment d =>
    [("tools", ofMap .string d.tools), ("manifest", .string d.manifest),
      ("manifest_present", .bool d.manifestPresent),
      ("config_file", ofOption .string d.configFile), ("config_present", .bool d.configPresent)]
  | .install d =>
    [("dependencies", ofCount d.dependencies), ("dev_dependencies", ofCount d.devDependencies),
      ("exit_code", ofInt32 d.exitCode)]
  | .audit d =>
    [("vulnerabilities", ofCount d.vulnerabilities), ("exit_code", ofInt32 d.exitCode),
      ("output", .string d.output)]
  | .lint d =>
    [("errors", ofCount d.errors), ("warnings", ofCount d.warnings),
      ("exit_code", ofInt32 d.exitCode), ("output", .string d.output)]
  | .tests d => [("counts", d.counts.toJson), ("exit_code", ofInt32 d.exitCode)]
  | .coverage d =>
    [("summary", d.percentages.toJson), ("source", .string d.source), ("found", .bool d.found),
      ("exit_code", ofInt32 d.exitCode)]
  | .artifacts d =>
    [("directory", .string d.directory), ("files", ofTexts d.files),
      ("total_bytes", ofCount d.totalBytes)]

/-- The kind stands before the detail's own fields. -/
def toJson (d : StepDetail) : Json := .object (("kind", .string d.kind) :: d.members)

def readKind (kind : String) (j : Json) : Option StepDetail :=
  match kind with
  | "none" => match j with
    | .object _ | .array [] => some .none
    | _ => Option.none
  | "message" => do
    let f ← fields? ["text"] j
    return .message (← f.required "text" Reader.text)
  | "environment" => do
    let f ← fields? ["tools", "manifest", "manifest_present", "config_file", "config_present"] j
    return .environment
      ⟨← f.required "tools" (Reader.map Reader.text), ← f.required "manifest" Reader.text,
        ← f.required "manifest_present" Reader.flag,
        ← f.optional "config_file" (Reader.nullable Reader.text),
        ← f.required "config_present" Reader.flag⟩
  | "install" => do
    let f ← fields? ["dependencies", "dev_dependencies", "exit_code"] j
    return .install
      ⟨← f.required "dependencies" Reader.count, ← f.required "dev_dependencies" Reader.count,
        ← f.required "exit_code" Reader.int32⟩
  | "audit" => do
    let f ← fields? ["vulnerabilities", "exit_code", "output"] j
    return .audit
      ⟨← f.required "vulnerabilities" Reader.count, ← f.required "exit_code" Reader.int32,
        ← f.required "output" Reader.text⟩
  | "lint" => do
    let f ← fields? ["errors", "warnings", "exit_code", "output"] j
    return .lint
      ⟨← f.required "errors" Reader.count, ← f.required "warnings" Reader.count,
        ← f.required "exit_code" Reader.int32, ← f.required "output" Reader.text⟩
  | "tests" => do
    let f ← fields? ["counts", "exit_code"] j
    return .tests
      ⟨← f.required "counts" TestCounts.reader, ← f.required "exit_code" Reader.int32⟩
  | "coverage" => do
    let f ← fields? ["summary", "source", "found", "exit_code"] j
    return .coverage
      ⟨← f.required "summary" CoverageSummary.reader, ← f.required "source" Reader.text,
        ← f.required "found" Reader.flag, ← f.required "exit_code" Reader.int32⟩
  | "artifacts" => do
    let f ← fields? ["directory", "files", "total_bytes"] j
    return .artifacts
      ⟨← f.required "directory" Reader.text, ← f.required "files" (Reader.list Reader.text),
        ← f.required "total_bytes" Reader.count⟩
  | _ => Option.none

/-- Reads a detail found at a depth that leaves `levels` for it: an object with exactly one kind,
or an array with the kind in front. All of it is kept until the kind is known. -/
def reader (levels : Nat) : Reader StepDetail := fun j =>
  if !j.keepable levels then Option.none
  else match j with
    | .object ms =>
      match ms.filter (fun m => m.1 = "kind") with
      | [(_, .string kind)] => readKind kind (.object (ms.filter fun m => m.1 ≠ "kind"))
      | _ => Option.none
    | .array (.string kind :: rest) => readKind kind (.array rest)
    | _ => Option.none

def parse? (text : String) : Option StepDetail := (Json.parse? text).bind (reader maxLevels)

end StepDetail

namespace StepResult

def fieldNames : List String :=
  ["name", "status", "started_at", "duration_ms", "detail", "error_message"]

def toJson (s : StepResult) : Json :=
  .object ([("name", .string s.name), ("status", s.status.toJson),
    ("started_at", s.startedAt.toJson), ("duration_ms", ofCount s.durationMs),
    ("detail", s.detail.toJson)] ++
    (match s.errorMessage with
      | some m => [("error_message", .string m)]
      | none => []))

/-- The levels that a report's own structure takes around a step's detail. -/
def levelsAbove : Nat := 3

def reader : Reader StepResult := fun j => do
  let f ← fields? fieldNames j
  return ⟨← f.required "name" Reader.text, ← f.required "status" StepStatus.reader,
    ← f.required "started_at" Timestamp.reader, ← f.required "duration_ms" Reader.count,
    ← f.required "detail" (StepDetail.reader (maxLevels - levelsAbove)),
    ← f.default "error_message" (Reader.nullable Reader.text) none⟩

end StepResult

namespace GateVerdict

def fieldNames : List String := ["passed", "pass_rate", "violations"]

def toJson (g : GateVerdict) : Json :=
  .object [("passed", .bool g.passed), ("pass_rate", .double g.passRate),
    ("violations", ofTexts g.violations)]

def reader : Reader GateVerdict := fun j => do
  let f ← fields? fieldNames j
  return ⟨← f.required "passed" Reader.flag, ← f.required "pass_rate" Reader.number,
    ← f.required "violations" (Reader.list Reader.text)⟩

end GateVerdict

namespace Report

def fieldNames : List String :=
  ["status", "timestamp", "project", "revision", "build_number", "run_id", "build_time_ms",
    "steps", "metrics", "errors", "quality_gate"]

def toJson (r : Report) : Json :=
  .object [("status", r.status.toJson), ("timestamp", r.timestamp.toJson),
    ("project", .string r.project), ("revision", ofOption .string r.revision),
    ("build_number", ofOption .string r.buildNumber), ("run_id", .string r.runId),
    ("build_time_ms", ofCount r.buildTimeMs),
    ("steps", .array (r.steps.map StepResult.toJson)), ("metrics", ofMap .double r.metrics),
    ("errors", ofTexts r.errors), ("quality_gate", ofOption GateVerdict.toJson r.qualityGate)]

def reader : Reader Report := fun j => do
  let f ← fields? fieldNames j
  return ⟨← f.required "status" PipelineStatus.reader, ← f.required "timestamp" Timestamp.reader,
    ← f.required "project" Reader.text,
    ← f.optional "revision" (Reader.nullable Reader.text),
    ← f.optional "build_number" (Reader.nullable Reader.text),
    ← f.required "run_id" Reader.text, ← f.required "build_time_ms" Reader.count,
    ← f.required "steps" (Reader.list StepResult.reader),
    ← f.required "metrics" (Reader.map Reader.number),
    ← f.required "errors" (Reader.list Reader.text),
    ← f.default "quality_gate" (Reader.nullable GateVerdict.reader) none⟩

def document (r : Report) : String := Json.render r.toJson

def parse? (text : String) : Option Report := (Json.parse? text).bind reader

end Report
end BuildPipeline
