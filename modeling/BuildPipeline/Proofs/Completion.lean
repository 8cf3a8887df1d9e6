import BuildPipeline.CommandLine.Completion
import BuildPipeline.Proofs.Watch

/-! How a run ends that was asked for on the command line. Settings that are no use end it before it
begins, with a report that says so; otherwise the report's status and the exit policy decide. -/
namespace BuildPipeline
variable {σ : Type}

theorem ExitPolicy.exitCode_eq (p : ExitPolicy) (status : PipelineStatus) :
    p.exitCode status =
      if status = .failed then 1 else if status = .partly ∧ p = .strict then 2 else 0 := by
  cases p <;> cases status <;> rfl

theorem Settings.fault?_of_validate_error {s : Settings} {f : Failure}
    (h : s.validate = .error f) : s.fault?.map Failure.config = some f := by
  unfold validate at h
  split at h
  next fault hfault =>
    cases h
    rw [hfault]
    rfl
  next => cases h

theorem Settings.fault?_of_validate_ok {s : Settings} (h : s.validate = .ok ()) :
    s.fault? = none := by
  unfold validate at h
  split at h
  next => cases h
  next hfault => exact hfault

namespace CommandLine

/-- Strictness comes from the command line or from the settings. -/
theorem Overrides.exitPolicy_apply (o : Overrides) (s : Settings) :
    (o.apply s).exitPolicy = .strict ↔ o.strict = true ∨ s.exitPolicy = .strict := by
  cases h : o.strict <;> simp [apply, h]

/-- What comes of settings `s` that are rejected: exit code 1, a FAILED report without steps whose
one error tells why, and that report's documents in the folder that `s` names. -/
structure Rejected (s : Settings) (why : String) (m : Machine σ) (c : Completion σ) : Prop where
  exitCode : c.exitCode = 1
  status : c.report.status = .failed
  steps : c.report.steps = []
  metrics : c.report.metrics = .empty
  gate : c.report.qualityGate = none
  errors : c.report.errors = ["Configuration failed: " ++ why]
  written : (c.documents, c.machine.files) = c.report.writeAll s.reportsPath m.files
  runner : c.machine.runner = m.runner

namespace RunRequest

/-- The settings in force: what the command line gives, and the rest as loaded. -/
def inForce (r : RunRequest) (s : Settings) : Settings :=
  { s with
    workingDir := r.overrides.workingDir.getD s.workingDir
    reportsDir := r.overrides.reportsDir.getD s.reportsDir
    projectName := if r.overrides.projectName.isSome then r.overrides.projectName
      else s.projectName
    exitPolicy := if r.overrides.strict then .strict else s.exitPolicy }

theorem apply_eq_inForce (r : RunRequest) (s : Settings) :
    r.overrides.apply s = r.inForce s := by
  cases h : r.overrides.projectName <;> simp [Overrides.apply, inForce, h]

/-- What comes of loaded settings, where `log` has the commands that are issued. If the settings
in force are rejected, that is none. Otherwise the report is the pipeline's, and the exit code is 1
for FAILED, 2 for PARTIAL if the settings or the command line are strict, and 0 in all other
cases. -/
def Decided (r : RunRequest) (runId : String) (runner : Runner σ) (m : Machine σ)
    (c : Completion σ) (log : List Call) (loaded : Settings) : Prop :=
  let s := r.inForce loaded
  match s.validate with
  | .error fault => Rejected s fault.message m c ∧ log = []
  | .ok () =>
    let run := (Pipeline.ofSettings s runner).run (r.metadata s runId m.files) m
    c.report = run.report ∧ c.documents = run.documents ∧ c.machine = run.machine ∧
    c.exitCode =
      if c.report.status = .failed then 1
      else if c.report.status = .partly ∧
        (r.overrides.strict = true ∨ loaded.exitPolicy = .strict) then 2
      else 0

theorem rejected_reject (s : Settings) (metadata : Metadata) (fault : Failure) (m : Machine σ) :
    Rejected s fault.messageWithCause m (reject s metadata fault m) where
  exitCode := rfl
  status := by simp [reject, Draft.finalize, Draft.pushError, Draft.status]
  steps := rfl
  metrics := rfl
  gate := rfl
  errors := rfl
  written := rfl
  runner := rfl

variable {r : RunRequest} {words : String → String} {m : Machine σ}

theorem settings_of_load_error {e : Failure}
    (h : loadSettings words r.settingsFile m.files = .error e) :
    r.settings words m.files = (r.inForce {}, some e) := by
  rw [settings, h, ← apply_eq_inForce]

theorem settings_of_load_ok {s : Settings}
    (h : loadSettings words r.settingsFile m.files = .ok s) :
    r.settings words m.files = (r.inForce s, (r.inForce s).fault?.map Failure.config) := by
  rw [settings, h, ← apply_eq_inForce]

theorem complete_of_fault (runId : String) (runner : Runner σ) {s : Settings} {fault : Failure}
    (h : r.settings words m.files = (s, some fault)) :
    r.complete words runId runner m = reject s (r.metadata s runId m.files) fault m := by
  simp only [complete, h]

theorem complete_of_settings (runId : String) (runner : Runner σ) {s : Settings}
    (h : r.settings words m.files = (s, none)) :
    let run := (Pipeline.ofSettings s runner).run (r.metadata s runId m.files) m
    (r.complete words runId runner m).report = run.report ∧
    (r.complete words runId runner m).documents = run.documents ∧
    (r.complete words runId runner m).machine = run.machine ∧
    (r.complete words runId runner m).exitCode = s.exitPolicy.exitCode run.report.status := by
  intro run
  rw [complete, h]
  exact ⟨rfl, rfl, rfl, rfl⟩

theorem rejected_complete (runId : String) (runner : Runner σ) {s : Settings} {fault : Failure}
    (h : r.settings words m.files = (s, some fault)) :
    Rejected s fault.messageWithCause m (r.complete words runId runner m) ∧
    (r.complete words runId runner.watched m.watched).machine.runner.2 = [] := by
  have hwatched : r.settings words m.watched.files = (s, some fault) := h
  rw [complete_of_fault runId runner h, complete_of_fault runId runner.watched hwatched]
  exact ⟨rejected_reject .., rfl⟩

theorem decided_complete (runId : String) (runner : Runner σ) {loaded : Settings}
    (h : loadSettings words r.settingsFile m.files = .ok loaded) :
    r.Decided runId runner m (r.complete words runId runner m)
      (r.complete words runId runner.watched m.watched).machine.runner.2 loaded := by
  have hsettings := settings_of_load_ok h
  cases hvalidate : (r.inForce loaded).validate with
  | error fault =>
    rw [Settings.fault?_of_validate_error hvalidate] at hsettings
    obtain ⟨f, -, rfl⟩ := Option.map_eq_some_iff.1 (Settings.fault?_of_validate_error hvalidate)
    simp only [Decided, hvalidate]
    exact rejected_complete runId runner hsettings
  | ok _ =>
    rw [Settings.fault?_of_validate_ok hvalidate] at hsettings
    obtain ⟨hreport, hdocuments, hmachine, hcode⟩ := complete_of_settings runId runner hsettings
    simp only [Decided, hvalidate]
    refine ⟨hreport, hdocuments, hmachine, ?_⟩
    rw [← hreport, ExitPolicy.exitCode_eq, ← apply_eq_inForce] at hcode
    simpa only [Overrides.exitPolicy_apply] using hcode

end RunRequest
end CommandLine
end BuildPipeline
