import BuildPipeline.Proofs.JsonOmission
import BuildPipeline.Settings.Load
import BuildPipeline.Settings.Validation

/-! Settings that are written, lose any of their optional fields and are loaded again. Every record
is read alike: what was left out has its default, everything else is as it was. -/
namespace BuildPipeline

open Json

/-! ### Records with defaults for what was left out -/

def PolicyTable.restored (t : PolicyTable) (o : Cut) (d : PolicyTable) : PolicyTable where
  environment := o.keep "environment" d.environment t.environment
  install := o.keep "install" d.install t.install
  audit := o.keep "audit" d.audit t.audit
  lint := o.keep "lint" d.lint t.lint
  tests := o.keep "tests" d.tests t.tests
  coverage := o.keep "coverage" d.coverage t.coverage
  artifacts := o.keep "artifacts" d.artifacts t.artifacts

def Timeouts.restored (t : Timeouts) (o : Cut) (d : Timeouts) : Timeouts where
  build := o.keep "build_ms" d.build t.build
  test := o.keep "test_ms" d.test t.test

/-- A threshold keeps its number. -/
def Threshold.restored {α : Type} (t : Threshold α) (o : Cut) : Threshold α where
  value := t.value
  comparison := o.keep "comparison" .atLeast t.comparison

/-- A coverage map that is given replaces the default one. -/
def Thresholds.restored {α : Type} (t : Thresholds α) (o : Cut) (d : Thresholds α) :
    Thresholds α where
  coverage := o.keep "coverage" d.coverage
    (t.coverage.mapValues fun category x => x.restored ((o.below "coverage").below category))
  passRate := o.keep "pass_rate" d.passRate (t.passRate.restored (o.below "pass_rate"))

def Commands.restored (c : Commands) (o : Cut) (d : Commands) : Commands where
  environment := o.keep "environment" d.environment c.environment
  install := o.keep "install" d.install c.install
  audit := o.keep "audit" d.audit c.audit
  lint := o.keep "lint" d.lint c.lint
  test := o.keep "test" d.test c.test
  coverage := o.keep "coverage" d.coverage c.coverage
  package := o.keep "package" d.package c.package

def ArtifactSettings.restored (a : ArtifactSettings) (o : Cut) (d : ArtifactSettings) :
    ArtifactSettings where
  directory := o.keep "directory" d.directory a.directory
  patterns := o.keep "patterns" d.patterns a.patterns

/-- The settings with the value of `d` for every field that was left out. -/
def Settings.restored (s : Settings) (o : Cut) (d : Settings) : Settings where
  projectName := o.keep "project_name" d.projectName s.projectName
  workingDir := o.keep "working_dir" d.workingDir s.workingDir
  reportsDir := o.keep "reports_dir" d.reportsDir s.reportsDir
  manifest := o.keep "manifest" d.manifest s.manifest
  configFile := o.keep "config_file" d.configFile s.configFile
  coverageSummary := o.keep "coverage_summary" d.coverageSummary s.coverageSummary
  commands := o.keep "commands" d.commands (s.commands.restored (o.below "commands") d.commands)
  policies := o.keep "policies" d.policies (s.policies.restored (o.below "policies") d.policies)
  timeouts := o.keep "timeouts" d.timeouts (s.timeouts.restored (o.below "timeouts") d.timeouts)
  thresholds := o.keep "thresholds" d.thresholds
    (s.thresholds.restored (o.below "thresholds") d.thresholds)
  artifacts := o.keep "artifacts" d.artifacts
    (s.artifacts.restored (o.below "artifacts") d.artifacts)
  testReporter := o.keep "test_reporter" d.testReporter s.testReporter
  minRecognizedTests := o.keep "min_recognized_tests" d.minRecognizedTests s.minRecognizedTests
  captureOutput := o.keep "capture_output" d.captureOutput s.captureOutput
  env := o.keep "env" d.env s.env
  exitPolicy := o.keep "exit_policy" d.exitPolicy s.exitPolicy

/-! ### Readers -/

@[simp] theorem FailurePolicy.reader_prune (x : FailurePolicy) (o : Cut) :
    reader (prune o x.toJson) = some x := by
  cases x <;> rw [toJson, prune_string] <;> rfl

@[simp] theorem TestReporter.reader_prune (x : TestReporter) (o : Cut) :
    reader (prune o x.toJson) = some x := by
  cases x <;> rw [toJson, prune_string] <;> rfl

@[simp] theorem ExitPolicy.reader_prune (x : ExitPolicy) (o : Cut) :
    reader (prune o x.toJson) = some x := by
  cases x <;> rw [toJson, prune_string] <;> rfl

@[simp] theorem Path.reader_prune (p : Path) (o : Cut) : reader (prune o p.toJson) = some p := by
  rw [toJson, prune_string]
  rfl

@[simp] theorem Threshold.comparisonReader_prune (c : Comparison) (o : Cut) :
    comparisonReader (prune o (comparisonToJson c)) = some c := by
  cases c
  rw [comparisonToJson, prune_string]
  rfl

theorem PolicyTable.reader_prune (t : PolicyTable) (o : Cut) :
    reader (prune o t.toJson) = some (t.restored o {}) := by
  rw [reader, toJson, fields?_prune o (by exact .refl _) (by decide)]
  simp [default_pruneMembers, some_keep, restored]

theorem Timeouts.reader_prune (t : Timeouts) (o : Cut) :
    reader (prune o t.toJson) = some (t.restored o {}) := by
  rw [reader, toJson, fields?_prune o (by exact .refl _) (by decide)]
  simp [default_pruneMembers, some_keep, restored]

theorem Threshold.reader_prune (t : Threshold Float) {o : Cut} (h : o ["threshold"] = false) :
    reader (prune o t.toJson) = some (t.restored o) := by
  rw [reader, toJson, fields?_prune o (by exact .refl _) (by decide)]
  simp [required_pruneMembers, default_pruneMembers, restored, h]

theorem Thresholds.reader_prune (t : Thresholds Float) {o : Cut}
    (hcategories : ∀ category, o ["coverage", category] = false)
    (hcoverage : ∀ category, o ["coverage", category, "threshold"] = false)
    (hrate : o ["pass_rate", "threshold"] = false) :
    reader (prune o t.toJson) = some (t.restored o .default) := by
  have hmap : Reader.map Threshold.reader (prune (o.below "coverage")
      (ofMap Threshold.toJson t.coverage)) = some (t.coverage.mapValues fun category x =>
        x.restored ((o.below "coverage").below category)) :=
    map_prune hcategories fun e _ => e.2.reader_prune (hcoverage e.1)
  have hpassRate : Threshold.reader (prune (o.below "pass_rate") t.passRate.toJson) =
      some (t.passRate.restored (o.below "pass_rate")) := t.passRate.reader_prune hrate
  rw [reader, toJson, fields?_prune o (by exact .refl _) (by decide)]
  simp [default_pruneMembers, some_keep, restored, hmap, hpassRate]

theorem Commands.reader_prune (c : Commands) (o : Cut) :
    reader (prune o c.toJson) = some (c.restored o {}) := by
  rw [reader, toJson, fields?_prune o (by exact .refl _) (by decide)]
  simp [default_pruneMembers, some_keep, restored]

theorem ArtifactSettings.reader_prune (a : ArtifactSettings) (o : Cut) :
    reader (prune o a.toJson) = some (a.restored o {}) := by
  rw [reader, toJson, fields?_prune o (by exact .refl _) (by decide)]
  simp [default_pruneMembers, some_keep, restored]

namespace Settings

/-- The fields that may be left out: those of the settings and of the records directly in them, and
how a value is compared with a threshold. -/
def isOptional : List String → Bool
  | [_] => true
  | [record, _] =>
    ["commands", "policies", "timeouts", "thresholds", "artifacts"].contains record
  | ["thresholds", "pass_rate", field] => field = "comparison"
  | ["thresholds", "coverage", _, field] => field = "comparison"
  | _ => false

/-- A choice of optional fields. -/
structure Omission where
  cut : Cut
  optional : ∀ path, cut path = true → isOptional path = true

theorem Omission.given (o : Omission) {path : List String} (h : isOptional path = false) :
    o.cut path = false := by
  cases hcut : o.cut path with
  | false => rfl
  | true => exact absurd (o.optional path hcut) (by simp [h])

theorem reader_prune (s : Settings) (o : Omission) :
    reader (prune o.cut s.toJson) = some (s.restored o.cut {}) := by
  have hthresholds : Thresholds.reader (prune (o.cut.below "thresholds") s.thresholds.toJson) =
      some (s.thresholds.restored (o.cut.below "thresholds") .default) :=
    s.thresholds.reader_prune (fun _ => o.given rfl) (fun _ => o.given (by simp [isOptional]))
      (o.given rfl)
  have henv : prune (o.cut.below "env") (ofMap .string s.env) = ofMap .string s.env :=
    prune_ofTextMap _ s.env fun _ => o.given (by simp [isOptional])
  rw [reader, toJson, fields?_prune o.cut (by exact .refl _) (by decide), Option.bind_eq_bind,
    Option.bind_some]
  -- every field is read in place; what binds them to each other is left to the last step
  simp only [default_pruneMembers, default_cons, ↓reduceIte, String.reduceEq, some_keep,
    hthresholds, henv, map_ofTextMap, prune_ofTextOption, nullable_ofTextOption, prune_string,
    text_string, prune_bool, flag_bool, prune_ofCount, count_ofCount, Path.reader_prune,
    Commands.reader_prune,
    PolicyTable.reader_prune, Timeouts.reader_prune, ArtifactSettings.reader_prune,
    TestReporter.reader_prune, ExitPolicy.reader_prune]
  rfl

theorem printable_toJson {s : Settings} (h : ∀ t ∈ s.namedThresholds, Printable (.double t.2)) :
    Printable s.toJson := by
  have hthreshold {t : Threshold Float} (hvalue : Printable (.double t.value)) :
      Printable t.toJson := by simp [Threshold.toJson, Threshold.comparisonToJson, hvalue]
  have hcoverage : Printable (ofMap Threshold.toJson s.thresholds.coverage) :=
    printable_ofMap.2 fun e he => hthreshold (h (e.1, e.2.value)
      (List.mem_append_left _ (List.mem_map_of_mem he)))
  have hpassRate : Printable s.thresholds.passRate.toJson :=
    hthreshold (h ("pass_rate", _) (List.mem_append_right _ List.mem_cons_self))
  have hpolicy (x : FailurePolicy) : Printable x.toJson := by cases x <;> exact .string _
  have hreporter : Printable s.testReporter.toJson := by cases s.testReporter <;> exact .string _
  have hexit : Printable s.exitPolicy.toJson := by cases s.exitPolicy <;> exact .string _
  simp [toJson, Commands.toJson, PolicyTable.toJson, Timeouts.toJson, Thresholds.toJson,
    ArtifactSettings.toJson, Path.toJson, hcoverage, hpassRate, hpolicy, hreporter, hexit]

theorem restored_nothing (s d : Settings) : s.restored (fun _ => false) d = s := by
  have hcoverage : s.thresholds.coverage.mapValues (fun category x =>
      x.restored (Cut.below (Cut.below (Cut.below (fun _ => false) "thresholds") "coverage")
        category)) = s.thresholds.coverage := SortedMap.mapValues_eq_self fun _ _ => rfl
  simp only [restored, Thresholds.restored, hcoverage]
  rfl

/-- A field is null in what is left of the document only if it was null before. -/
theorem configFile_of_null {s : Settings} {o : Cut} {members : List (String × Json)}
    (h : prune o s.toJson = .object members) (hnull : ("config_file", .null) ∈ members) :
    o ["config_file"] = false ∧ s.configFile = none := by
  rw [toJson, prune, Json.object.injEq] at h
  subst h
  obtain ⟨hkept, j, hj, hvalue⟩ := mem_pruneMembers hnull
  have hfield : j = ofOption .string s.configFile := by simpa using hj
  rw [hfield, prune_ofTextOption] at hvalue
  refine ⟨hkept, ?_⟩
  cases hfile : s.configFile with
  | none => rfl
  | some name => simp [hfile, ofOption] at hvalue

theorem load_of_text {fs : FileSystem} {p : Path} {j : Json} {s : Settings}
    (words : String → String) (htext : fs.readText p = .ok (render j)) (hj : Printable j)
    (hread : reader j = some s) : load fs p words = .ok s := by
  have hparse : parse? (render j) = some s := by
    rw [parse?, parse?_render hj, Option.bind_some, hread]
  simp only [load, htext, hparse]

theorem load_whole {fs : FileSystem} {p : Path} {s : Settings} (words : String → String)
    (hs : ∀ t ∈ s.namedThresholds, Printable (.double t.2))
    (htext : fs.readText p = .ok (render s.toJson)) : load fs p words = .ok s := by
  have hread := s.reader_prune ⟨fun _ => false, fun _ hcut => Bool.noConfusion hcut⟩
  rw [prune_nothing, restored_nothing] at hread
  exact load_of_text words htext (printable_toJson hs) hread

/-- Settings come back from what is left of their document, each field that was left out with its
default. That doubles come back from their own texts is assumed. -/
theorem load_restored (s : Settings) (o : Omission) (fs : FileSystem) (p : Path)
    (words : String → String)
    (hfinite : ∀ t ∈ s.namedThresholds, Decimal.isFinite t.2 = true)
    (hdoubles : ∀ t ∈ s.namedThresholds, Decimal.isFinite t.2 = true → ReadsBack t.2)
    (htext : fs.readText p = .ok (render (prune o.cut s.toJson))) :
    ∃ loaded, load fs p words = .ok loaded ∧ loaded = s.restored o.cut {} ∧
      ((∀ path, o.cut path = false) → loaded = s) ∧
      (o.cut ["config_file"] = true → loaded.configFile = some "wdio.conf.js") ∧
      (∀ members, prune o.cut s.toJson = .object members → ("config_file", .null) ∈ members →
        loaded.configFile = none) ∧
      (o.cut ["thresholds"] = false → o.cut ["thresholds", "coverage"] = false →
        loaded.thresholds.coverage.keys = s.thresholds.coverage.keys) ∧
      (o.cut ["env"] = false → loaded.env = s.env) := by
  have hprintable : Printable (prune o.cut s.toJson) :=
    printable_prune (printable_toJson fun t ht => .double (hfinite t ht)
      (hdoubles t ht (hfinite t ht))) o.cut
  have hload : load fs p words = .ok (s.restored o.cut {}) :=
    load_of_text words htext hprintable (s.reader_prune o)
  refine ⟨_, hload, rfl, ?whole, ?deleted, ?null, ?coverage, ?env⟩
  case whole =>
    intro hnothing
    rw [funext hnothing, restored_nothing]
  case deleted =>
    intro hcut
    exact if_pos hcut
  case null =>
    intro members hmembers hnull
    obtain ⟨hkept, hnone⟩ := configFile_of_null hmembers hnull
    have hfile : (s.restored o.cut {}).configFile = s.configFile := if_neg (by simp [hkept])
    rw [hfile, hnone]
  case coverage =>
    intro hthresholds hcoverage
    have hgiven : (o.cut.below "thresholds") ["coverage"] = false := hcoverage
    simp [restored, Thresholds.restored, Cut.keep, hthresholds, hgiven, SortedMap.keys_mapValues]
  case env =>
    intro henv
    exact if_neg (by simp [henv])

/-- Settings in which hardly anything is as it would be by default. -/
def unusual : Settings where
  projectName := some "naïve \"☃\""
  workingDir := ⟨"/srv/build"⟩
  configFile := none
  commands := { environment := [], package := some "npm pack" }
  policies := { lint := .fatal, install := .tolerant }
  timeouts := { build := 0xFFFFFFFFFFFFFFFF }
  thresholds :=
    ⟨.ofList [("lines", ⟨66.5, .atLeast⟩), ("paths", ⟨-0.0, .atLeast⟩)], ⟨1e300, .atLeast⟩⟩
  env := .ofList [("CI", "false"), ("", "\n")]
  exitPolicy := .strict

/-- Leaves out fields at each of the depths at which one may be left out. -/
def sparse : Omission where
  cut path := [["working_dir"], ["artifacts"], ["commands", "environment"], ["policies", "lint"],
    ["thresholds", "pass_rate", "comparison"],
    ["thresholds", "coverage", "lines", "comparison"]].contains path
  optional path h := by
    simp only [List.contains_iff_mem, List.mem_cons, List.not_mem_nil, or_false] at h
    rcases h with rfl | rfl | rfl | rfl | rfl | rfl <;> decide

/-- A project folder with one settings file. -/
def folderWith (text : String) : FileSystem where
  root := .folder [("cadence.json", .file text.toUTF8)]
  workingFolder := []

theorem readText_folderWith (text : String) :
    (folderWith text).readText ⟨"cadence.json"⟩ = .ok text := by
  have hsteps : FileSystem.steps ⟨"cadence.json"⟩ = ["cadence.json"] := by decide
  have hlocate : (folderWith text).locate ⟨"cadence.json"⟩ .target =
      .ok ⟨["cadence.json"], some (.file text.toUTF8)⟩ := by
    rw [FileSystem.locate, hsteps]
    simp [FileSystem.follow, folderWith, Node.get?, Node.find?, FileSystem.maxNameBytes]
    rfl
  have hbytes : (folderWith text).readBytes ⟨"cadence.json"⟩ = .ok text.toUTF8 := by
    simp only [FileSystem.readBytes, FileSystem.stat, hlocate]
    rfl
  have htext : String.fromUTF8? text.toUTF8 = some text := dif_pos text.isValidUTF8
  simp only [FileSystem.readText, hbytes, htext]

theorem unusual_loaded :
    load (folderWith (render (prune sparse.cut unusual.toJson))) ⟨"cadence.json"⟩ =
      .ok (unusual.restored sparse.cut {}) := by
  obtain ⟨loaded, hload, hrestored, -⟩ :=
    load_restored unusual sparse (folderWith (render (prune sparse.cut unusual.toJson)))
      ⟨"cadence.json"⟩ (fun _ => "") (by decide +kernel) (by decide +kernel)
      (readText_folderWith _)
  rw [hload, hrestored]

end Settings
end BuildPipeline
