import BuildPipeline.FileSystem.Basic
import BuildPipeline.Report.Codec
import BuildPipeline.Settings.Basic

/-!
Settings as documents. Any field may be left out and then has its default; a map that is given
replaces the default map.
-/
namespace BuildPipeline

open Json

namespace FailurePolicy

def names : List (String × FailurePolicy) := [("fatal", .fatal), ("tolerant", .tolerant)]

def toJson : FailurePolicy → Json
  | .fatal => .string "fatal"
  | .tolerant => .string "tolerant"

def reader : Reader FailurePolicy := Reader.choice names

end FailurePolicy

namespace PolicyTable

def fieldNames : List String :=
  ["environment", "install", "audit", "lint", "tests", "coverage", "artifacts"]

def toJson (t : PolicyTable) : Json :=
  .object [("environment", t.environment.toJson), ("install", t.install.toJson),
    ("audit", t.audit.toJson), ("lint", t.lint.toJson), ("tests", t.tests.toJson),
    ("coverage", t.coverage.toJson), ("artifacts", t.artifacts.toJson)]

def reader : Reader PolicyTable := fun j => do
  let f ← fields? fieldNames j
  let d : PolicyTable := {}
  return ⟨← f.default "environment" FailurePolicy.reader d.environment,
    ← f.default "install" FailurePolicy.reader d.install,
    ← f.default "audit" FailurePolicy.reader d.audit,
    ← f.default "lint" FailurePolicy.reader d.lint,
    ← f.default "tests" FailurePolicy.reader d.tests,
    ← f.default "coverage" FailurePolicy.reader d.coverage,
    ← f.default "artifacts" FailurePolicy.reader d.artifacts⟩

end PolicyTable

namespace Timeouts

def fieldNames : List String := ["build_ms", "test_ms"]

def toJson (t : Timeouts) : Json :=
  .object [("build_ms", ofCount t.build), ("test_ms", ofCount t.test)]

def reader : Reader Timeouts := fun j => do
  let f ← fields? fieldNames j
  let d : Timeouts := {}
  return ⟨← f.default "build_ms" Reader.count d.build,
    ← f.default "test_ms" Reader.count d.test⟩

end Timeouts

namespace Threshold

def comparisonToJson : Comparison → Json
  | .atLeast => .string "gte"

def toJson (t : Threshold Float) : Json :=
  .object [("threshold", .double t.value), ("comparison", comparisonToJson t.comparison)]

def comparisonReader : Reader Comparison := Reader.choice [("gte", .atLeast)]

def reader : Reader (Threshold Float) := fun j => do
  let f ← fields? ["threshold", "comparison"] j
  return ⟨← f.required "threshold" Reader.number,
    ← f.default "comparison" comparisonReader .atLeast⟩

end Threshold

namespace Thresholds

def toJson (t : Thresholds Float) : Json :=
  .object [("coverage", ofMap Threshold.toJson t.coverage), ("pass_rate", t.passRate.toJson)]

def reader : Reader (Thresholds Float) := fun j => do
  let f ← fields? ["coverage", "pass_rate"] j
  return ⟨← f.default "coverage" (Reader.map Threshold.reader) Thresholds.default.coverage,
    ← f.default "pass_rate" Threshold.reader Thresholds.default.passRate⟩

end Thresholds

namespace Commands

def fieldNames : List String :=
  ["environment", "install", "audit", "lint", "test", "coverage", "package"]

def toJson (c : Commands) : Json :=
  .object [("environment", ofTexts c.environment), ("install", .string c.install),
    ("audit", .string c.audit), ("lint", .string c.lint), ("test", .string c.test),
    ("coverage", .string c.coverage), ("package", ofOption .string c.package)]

def reader : Reader Commands := fun j => do
  let f ← fields? fieldNames j
  let d : Commands := {}
  return ⟨← f.default "environment" (Reader.list Reader.text) d.environment,
    ← f.default "install" Reader.text d.install, ← f.default "audit" Reader.text d.audit,
    ← f.default "lint" Reader.text d.lint, ← f.default "test" Reader.text d.test,
    ← f.default "coverage" Reader.text d.coverage,
    ← f.default "package" (Reader.nullable Reader.text) d.package⟩

end Commands

namespace ArtifactSettings

def toJson (a : ArtifactSettings) : Json :=
  .object [("directory", .string a.directory), ("patterns", ofTexts a.patterns)]

def reader : Reader ArtifactSettings := fun j => do
  let f ← fields? ["directory", "patterns"] j
  let d : ArtifactSettings := {}
  return ⟨← f.default "directory" Reader.text d.directory,
    ← f.default "patterns" (Reader.list Reader.text) d.patterns⟩

end ArtifactSettings

namespace TestReporter

def toJson : TestReporter → Json
  | .mocha => .string "mocha"
  | .jest => .string "jest"

def reader : Reader TestReporter := Reader.choice [("mocha", .mocha), ("jest", .jest)]

end TestReporter

namespace ExitPolicy

def toJson : ExitPolicy → Json
  | .tolerant => .string "tolerant"
  | .strict => .string "strict"

def reader : Reader ExitPolicy := Reader.choice [("tolerant", .tolerant), ("strict", .strict)]

end ExitPolicy

namespace Path

def toJson (p : Path) : Json := .string p.text

def reader : Reader Path := fun j => (Reader.text j).map Path.mk

end Path

namespace Settings

def fieldNames : List String :=
  ["project_name", "working_dir", "reports_dir", "manifest", "config_file", "coverage_summary",
    "commands", "policies", "timeouts", "thresholds", "artifacts", "test_reporter",
    "min_recognized_tests", "capture_output", "env", "exit_policy"]

def toJson (s : Settings) : Json :=
  .object [("project_name", ofOption .string s.projectName),
    ("working_dir", s.workingDir.toJson), ("reports_dir", s.reportsDir.toJson),
    ("manifest", .string s.manifest), ("config_file", ofOption .string s.configFile),
    ("coverage_summary", .string s.coverageSummary), ("commands", s.commands.toJson),
    ("policies", s.policies.toJson), ("timeouts", s.timeouts.toJson),
    ("thresholds", s.thresholds.toJson), ("artifacts", s.artifacts.toJson),
    ("test_reporter", s.testReporter.toJson),
    ("min_recognized_tests", ofCount s.minRecognizedTests),
    ("capture_output", .bool s.captureOutput), ("env", ofMap .string s.env),
    ("exit_policy", s.exitPolicy.toJson)]

def reader : Reader Settings := fun j => do
  let f ← fields? fieldNames j
  let d : Settings := {}
  return {
    projectName := ← f.default "project_name" (Reader.nullable Reader.text) d.projectName
    workingDir := ← f.default "working_dir" Path.reader d.workingDir
    reportsDir := ← f.default "reports_dir" Path.reader d.reportsDir
    manifest := ← f.default "manifest" Reader.text d.manifest
    configFile := ← f.default "config_file" (Reader.nullable Reader.text) d.configFile
    coverageSummary := ← f.default "coverage_summary" Reader.text d.coverageSummary
    commands := ← f.default "commands" Commands.reader d.commands
    policies := ← f.default "policies" PolicyTable.reader d.policies
    timeouts := ← f.default "timeouts" Timeouts.reader d.timeouts
    thresholds := ← f.default "thresholds" Thresholds.reader d.thresholds
    artifacts := ← f.default "artifacts" ArtifactSettings.reader d.artifacts
    testReporter := ← f.default "test_reporter" TestReporter.reader d.testReporter
    minRecognizedTests := ← f.default "min_recognized_tests" Reader.count d.minRecognizedTests
    captureOutput := ← f.default "capture_output" Reader.flag d.captureOutput
    env := ← f.default "env" (Reader.map Reader.text) d.env
    exitPolicy := ← f.default "exit_policy" ExitPolicy.reader d.exitPolicy }

def document (s : Settings) : String := Json.render s.toJson

def parse? (text : String) : Option Settings := (Json.parse? text).bind reader

end Settings
end BuildPipeline
