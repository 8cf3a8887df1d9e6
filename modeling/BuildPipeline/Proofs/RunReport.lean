import BuildPipeline.Proofs.Draft
import BuildPipeline.Proofs.Turn

/-! The report of a run, told from its turns. -/
namespace BuildPipeline
variable {σ : Type}

/-- A draft with the pass rate that the gate found. -/
def Draft.settle (d : Draft) : Option GateVerdict → Draft
  | some gate => d.recordMetric Metric.passRate gate.passRate
  | none => d

@[simp] theorem Draft.steps_settle (d : Draft) (gate : Option GateVerdict) :
    (d.settle gate).steps = d.steps := by
  cases gate <;> rfl

@[simp] theorem Draft.errors_settle (d : Draft) (gate : Option GateVerdict) :
    (d.settle gate).errors = d.errors := by
  cases gate <;> rfl

/-- What is told of the gate, if it was evaluated. -/
def GateVerdict.told : Option GateVerdict → List Event
  | some gate => [.qualityGateEvaluated gate.passed gate.violations]
  | none => []

namespace Pipeline

/-- The machine after the look at the clock that opens a run. -/
def opened (m : Machine σ) : Machine σ := { m with clock := m.clock.look.2 }

/-- The turns that a run consists of. -/
def executed (p : Pipeline σ) (m : Machine σ) : List (Turn σ) :=
  Turn.upToFailure p.settings (p.turns p.steps (opened m))

/-- The draft after the last turn. -/
def drafted (p : Pipeline σ) (metadata : Metadata) (m : Machine σ) : Draft :=
  { metadata := metadata, opened := m.clock.look.1 : Draft }.follow p.settings (p.executed m)

/-- The gate's verdict on a draft without a failed step. -/
def gate? (p : Pipeline σ) (d : Draft) : Option GateVerdict :=
  if d.hasFailure then none else some (QualityGate.evaluate d.metrics p.settings.thresholds)

theorem evaluateGate_eq (p : Pipeline σ) (s : Progress σ) :
    p.evaluateGate s = (p.gate? s.draft, ⟨s.machine, s.draft.settle (p.gate? s.draft),
      s.events ++ GateVerdict.told (p.gate? s.draft)⟩) := by
  unfold evaluateGate gate?
  split
  · simp [Draft.settle, GateVerdict.told]
  · rfl

theorem executeSteps_begin (p : Pipeline σ) (metadata : Metadata) (m : Machine σ) :
    p.executeSteps p.steps 0 (p.begin metadata m) =
      ⟨Turn.leave (opened m) (p.executed m), p.drafted metadata m,
        [.pipelineStarted metadata.project metadata.runId (Count.saturate p.steps.length),
          .phaseChanged .running] ++ Turn.eventsFrom p.settings 0 (p.executed m)⟩ := by
  rw [executeSteps_eq]
  rfl

/-- Everything that a run gives back, told from its turns. -/
theorem run_eq (p : Pipeline σ) (metadata : Metadata) (m : Machine σ) :
    let left := Turn.leave (opened m) (p.executed m)
    let d := p.drafted metadata m
    let gate := p.gate? d
    let report := (d.settle gate).finalize gate left.clock.look.1
    let written := report.writeAll p.settings.reportsPath left.files
    p.run metadata m =
      { report := report
        documents := written.1
        events :=
          [.pipelineStarted metadata.project metadata.runId (Count.saturate p.steps.length),
            .phaseChanged .running] ++ Turn.eventsFrom p.settings 0 (p.executed m) ++
          [.phaseChanged .finalizing] ++ GateVerdict.told gate ++
          written.1.map documentEvent ++
          [.phaseChanged .finished, .pipelineFinished report.status report.buildTimeMs]
        machine := { left with clock := left.clock.look.2, files := written.2 } } := by
  intro left d gate report written
  rw [run, executeSteps_begin, conclude, evaluateGate_eq]
  rfl

/-- A run looks at its handlers only through its turns. -/
theorem run_congr {p q : Pipeline σ} {m : Machine σ} (metadata : Metadata)
    (hs : q.settings = p.settings) (h : q.executed m = p.executed m) :
    (q.run metadata m).report = (p.run metadata m).report ∧
    (q.run metadata m).documents = (p.run metadata m).documents ∧
    (q.run metadata m).machine = (p.run metadata m).machine := by
  have hd : q.drafted metadata m = p.drafted metadata m := by rw [drafted, drafted, hs, h]
  have hg (d : Draft) : q.gate? d = p.gate? d := by rw [gate?, gate?, hs]
  simp only [run_eq, hs, h, hd, hg, and_self]

theorem executed_cases (p : Pipeline σ) (m : Machine σ) :
    (p.executed m = p.turns p.steps (opened m) ∧ ∀ t ∈ p.executed m, t.failed p.settings = false) ∨
    ∃ before t reason, p.executed m = before ++ [t] ∧
      (∀ u ∈ before, u.failed p.settings = false) ∧ t.verdict p.settings = .failed reason := by
  rcases Turn.upToFailure_cases p.settings (p.turns p.steps (opened m)) with
    ⟨heq, hall⟩ | ⟨before, t, reason, rest, _, hup, hbefore, hv⟩
  · exact .inl ⟨heq, by rw [executed, heq]; exact hall⟩
  · exact .inr ⟨before, t, reason, hup, hbefore, hv⟩

section Report
variable {p : Pipeline σ} {metadata : Metadata} {m : Machine σ}

theorem hasFailure_drafted :
    (p.drafted metadata m).hasFailure = (p.executed m).any (·.failed p.settings) := by
  simp only [Draft.hasFailure, drafted, Draft.follow, List.nil_append, List.any_map]
  rfl

theorem report_metadata :
    (p.run metadata m).report.project = metadata.project ∧
    (p.run metadata m).report.runId = metadata.runId := by
  rw [run_eq]
  cases hg : p.gate? (p.drafted metadata m) <;> exact ⟨rfl, rfl⟩

theorem report_steps :
    (p.run metadata m).report.steps = (p.executed m).map (Turn.step p.settings) := by
  rw [run_eq]
  simp [Draft.finalize, drafted, Draft.follow]

/-- In a report only failed steps have an error message, and all of them do. -/
theorem errorMessage_report_steps : ∀ s ∈ (p.run metadata m).report.steps,
    (s.errorMessage.isSome = true ↔ s.status = .failed) := by
  intro s hs
  rw [report_steps] at hs
  obtain ⟨t, _, rfl⟩ := List.mem_map.1 hs
  exact Verdict.reason?_isSome_iff

theorem report_gate :
    (p.run metadata m).report.qualityGate = p.gate? (p.drafted metadata m) := by
  rw [run_eq]
  rfl

/-- The gate is evaluated exactly if no step failed. -/
theorem gate_eq_none_iff : (p.run metadata m).report.qualityGate = none ↔
    ∃ s ∈ (p.run metadata m).report.steps, s.status = .failed := by
  have hsteps : (p.drafted metadata m).steps = (p.run metadata m).report.steps := by
    rw [report_steps, drafted, Draft.follow, List.nil_append]
  rw [report_gate, gate?, ← hsteps, ← Draft.hasFailure_iff]
  cases (p.drafted metadata m).hasFailure <;> simp

theorem report_errors :
    (p.run metadata m).report.errors = (p.executed m).filterMap (Turn.error? p.settings) := by
  rw [run_eq]
  simp [Draft.finalize, drafted, Draft.follow]

theorem report_status :
    (p.run metadata m).report.status =
      (p.drafted metadata m).status (p.run metadata m).report.qualityGate := by
  rw [report_gate, run_eq]
  simp [Draft.finalize, Draft.status]

theorem metrics_drafted : (p.drafted metadata m).metrics =
    SortedMap.empty.insertAll ((p.executed m).flatMap Turn.metrics) := rfl

theorem report_metrics : (p.run metadata m).report.metrics =
    ((p.drafted metadata m).settle (p.run metadata m).report.qualityGate).metrics := by
  rw [report_gate, run_eq]
  rfl

theorem machine_runner :
    (p.run metadata m).machine.runner = (Turn.leave (opened m) (p.executed m)).runner := by
  rw [run_eq]

/-- A run without a failed turn has no errors, evaluates the gate and does not fail. -/
theorem report_of_not_failed (metadata : Metadata)
    (h : ∀ t ∈ p.executed m, t.failed p.settings = false) :
    (p.run metadata m).report.errors = [] ∧
    (p.run metadata m).report.qualityGate =
      some (QualityGate.evaluate (p.drafted metadata m).metrics p.settings.thresholds) ∧
    (p.run metadata m).report.status ≠ .failed := by
  have herrors := Turn.errors_of_not_failed h
  have hfailure : (p.drafted metadata m).hasFailure = false := by
    rw [hasFailure_drafted]
    simpa using h
  refine ⟨by rw [report_errors, herrors], by rw [report_gate, gate?, hfailure]; rfl, ?_⟩
  rw [report_status, Ne, Draft.status_eq_failed_iff, ← Draft.hasFailure_iff, hfailure]
  simp [drafted, Draft.follow, herrors]

/-- A run whose last turn failed has just that turn's error, no gate verdict and status FAILED. -/
theorem report_of_failed (metadata : Metadata) {before : List (Turn σ)} {t : Turn σ}
    {reason : String} (h : p.executed m = before ++ [t])
    (hbefore : ∀ u ∈ before, u.failed p.settings = false)
    (hv : t.verdict p.settings = .failed reason) :
    (p.run metadata m).report.errors = [t.handler.name ++ " failed: " ++ reason] ∧
    (p.run metadata m).report.qualityGate = none ∧
    (p.run metadata m).report.status = .failed := by
  have hfailure : (p.drafted metadata m).hasFailure = true := by
    rw [hasFailure_drafted, h]
    simp [Turn.failed_iff.2 ⟨reason, hv⟩]
  refine ⟨?_, by rw [report_gate, gate?, hfailure]; rfl, ?_⟩
  · rw [report_errors, h, Turn.errors_of_last_failed hbefore hv]
  · rw [report_status, Draft.status_eq_failed_iff, ← Draft.hasFailure_iff]
    exact .inr hfailure

end Report

theorem executed_of_findIdx? (p : Pipeline σ) (m : Machine σ) {k : Nat}
    (hk : (p.turns p.steps (opened m)).findIdx? (·.failed p.settings) = some k) :
    p.executed m = (p.turns p.steps (opened m)).take (k + 1) := by
  have h := Turn.upToFailure_take_append hk ((p.turns p.steps (opened m)).drop (k + 1))
  rwa [List.take_append_drop] at h

/-- Handlers after the first failed turn can be exchanged for any others. -/
theorem executed_exchange (p : Pipeline σ) (m : Machine σ) {k : Nat}
    (hk : (p.turns p.steps (opened m)).findIdx? (·.failed p.settings) = some k)
    (others : List (Handler σ)) :
    ({ p with steps := p.steps.take (k + 1) ++ others } : Pipeline σ).executed m =
      p.executed m := by
  have hturns : ({ p with steps := p.steps.take (k + 1) ++ others } : Pipeline σ).turns
      (p.steps.take (k + 1) ++ others) (opened m) =
        p.turns (p.steps.take (k + 1) ++ others) (opened m) := turns_congr (by rfl) _ _
  rw [executed_of_findIdx? p m hk, executed, hturns, turns_append, turns_take]
  exact Turn.upToFailure_take_append hk _

end Pipeline
end BuildPipeline
