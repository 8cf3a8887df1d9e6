import BuildPipeline.Count
import BuildPipeline.Decimal.Notation
import BuildPipeline.SortedMap

/-!
What each kind of step found, and its one-line summary.
-/
namespace BuildPipeline

structure EnvironmentDetail where
  tools : SortedMap String
  manifest : String
  manifestPresent : Bool
  configFile : Option String
  configPresent : Bool
  deriving DecidableEq

structure InstallDetail where
  dependencies : Count
  devDependencies : Count
  exitCode : Int32
  deriving DecidableEq

structure AuditDetail where
  vulnerabilities : Count
  exitCode : Int32
  output : String
  deriving DecidableEq

structure LintDetail where
  errors : Count
  warnings : Count
  exitCode : Int32
  output : String
  deriving DecidableEq

structure TestCounts where
  passed : Count
  failed : Count
  skipped : Count
  total : Count
  deriving DecidableEq, Inhabited

def TestCounts.ofParts (passed failed skipped : Count) : TestCounts :=
  ⟨passed, failed, skipped, (passed.add failed).add skipped⟩

def TestCounts.none : TestCounts := ⟨0, 0, 0, 0⟩

structure TestDetail where
  counts : TestCounts
  exitCode : Int32
  deriving DecidableEq

structure CoverageSummary where
  statements : Float
  branches : Float
  functions : Float
  lines : Float
  deriving DecidableEq

namespace CoverageSummary

def zero : CoverageSummary := ⟨0, 0, 0, 0⟩

def categories : List String := ["statements", "branches", "functions", "lines"]

def entries (s : CoverageSummary) : List (String × Float) :=
  categories.zip [s.statements, s.branches, s.functions, s.lines]

end CoverageSummary

structure CoverageDetail where
  percentages : CoverageSummary
  /-- Where the summary document was looked for. -/
  source : String
  found : Bool
  exitCode : Int32
  deriving DecidableEq

structure ArtifactDetail where
  directory : String
  files : List String
  totalBytes : Count
  deriving DecidableEq

inductive StepDetail
  | none
  | message (text : String)
  | environment (d : EnvironmentDetail)
  | install (d : InstallDetail)
  | audit (d : AuditDetail)
  | lint (d : LintDetail)
  | tests (d : TestDetail)
  | coverage (d : CoverageDetail)
  | artifacts (d : ArtifactDetail)
  deriving DecidableEq, Inhabited

def exitCodeText (code : Int32) : String := toString code.toInt

def commaSeparated (parts : List String) : String := String.intercalate ", " parts

namespace EnvironmentDetail

def summary (d : EnvironmentDetail) : String :=
  let tools := d.tools.entries.map fun e => e.1 ++ ": " ++ e.2
  let manifest := d.manifest ++ (if d.manifestPresent then " present" else " missing")
  let config := d.configFile.toList.map fun file =>
    file ++ (if d.configPresent then " present" else " absent")
  commaSeparated (tools ++ manifest :: config)

end EnvironmentDetail

def InstallDetail.summary (d : InstallDetail) : String :=
  d.dependencies.text ++ " dependencies, " ++ d.devDependencies.text ++ " dev dependencies"

def AuditDetail.summary (d : AuditDetail) : String :=
  if d.exitCode = 0 ∧ d.vulnerabilities = 0 then "no known vulnerabilities"
  else d.vulnerabilities.text ++ " vulnerabilities (exit code " ++ exitCodeText d.exitCode ++ ")"

def LintDetail.summary (d : LintDetail) : String :=
  d.errors.text ++ " errors, " ++ d.warnings.text ++ " warnings (exit code " ++
    exitCodeText d.exitCode ++ ")"

def TestCounts.summary (c : TestCounts) : String :=
  c.passed.text ++ " passed, " ++ c.failed.text ++ " failed, " ++ c.skipped.text ++
    " skipped of " ++ c.total.text

def CoverageDetail.summary (d : CoverageDetail) : String :=
  if d.found then
    commaSeparated (d.percentages.entries.map fun e => e.1 ++ " " ++ Decimal.plain e.2 ++ "%")
  else "no coverage summary at " ++ d.source

def ArtifactDetail.summary (d : ArtifactDetail) : String :=
  toString d.files.length ++ " files (" ++ d.totalBytes.text ++ " bytes) in " ++ d.directory

namespace StepDetail

def summary : StepDetail → String
  | .none => ""
  | .message text => text
  | .environment d => d.summary
  | .install d => d.summary
  | .audit d => d.summary
  | .lint d => d.summary
  | .tests d => d.counts.summary
  | .coverage d => d.summary
  | .artifacts d => d.summary

def testCounts? : StepDetail → Option TestCounts
  | .tests d => some d.counts
  | _ => Option.none

end StepDetail
end BuildPipeline
