import BuildPipeline.Proofs.RunReport

/-! The events of a run, read off its report: what a listener hears tells the report's steps, its
gate verdict and its documents, and nothing else. -/
namespace BuildPipeline
variable {σ : Type}

/-- What is told of a step. -/
def StepResult.told (index : Nat) (s : StepResult) : List Event :=
  [.stepStarted s.name (Count.saturate index),
    .stepCompleted s.name s.status s.durationMs s.detail.summary]

/-- What is told of a run's end, if its last step failed. -/
def StepResult.toldOfEnd (s : StepResult) : List Event :=
  if s.status = .failed then
    [.phaseChanged .aborting, .pipelineAborted s.name (s.errorMessage.getD "")]
  else []

def DocumentOutcome.told (o : DocumentOutcome) : Event :=
  match o.error with
  | none => .reportWritten o.format o.path.text
  | some e => .reportFailed o.format e.message

/-- The log of a run of some number of steps, as its report and documents have it. -/
def Report.log (r : Report) (stepCount : Nat) (documents : List DocumentOutcome) : List Event :=
  [.pipelineStarted r.project r.runId (Count.saturate stepCount), .phaseChanged .running] ++
  r.steps.zipIdx.flatMap (fun s => s.1.told s.2) ++
  r.steps.getLast?.toList.flatMap StepResult.toldOfEnd ++
  [.phaseChanged .finalizing] ++
  r.qualityGate.toList.map (fun g => .qualityGateEvaluated g.passed g.violations) ++
  documents.map DocumentOutcome.told ++
  [.phaseChanged .finished, .pipelineFinished r.status r.buildTimeMs]

namespace Report
variable {r : Report} {stepCount : Nat} {documents : List DocumentOutcome}

/-- Documents are told of, and nothing else, at their place in the log. -/
theorem mem_told_documents {e : Event} (h : e ∈ documents.map DocumentOutcome.told) :
    (∃ format path, e = .reportWritten format path) ∨
      ∃ format error, e = .reportFailed format error := by
  obtain ⟨o, _, rfl⟩ := List.mem_map.1 h
  unfold DocumentOutcome.told
  split
  · exact .inl ⟨_, _, rfl⟩
  · exact .inr ⟨_, _, rfl⟩

theorem phase_notMem_told_documents (phase : Phase) :
    .phaseChanged phase ∉ documents.map DocumentOutcome.told := by
  intro h
  rcases mem_told_documents h with ⟨_, _, h⟩ | ⟨_, _, h⟩ <;> cases h

theorem aborting_mem_log_iff : .phaseChanged .aborting ∈ r.log stepCount documents ↔
    ∃ s, r.steps.getLast? = some s ∧ s.status = .failed := by
  simp only [log, List.mem_append, phase_notMem_told_documents]
  simp [StepResult.told, StepResult.toldOfEnd]

theorem gate_mem_log_iff {passed : Bool} {violations : List String} :
    .qualityGateEvaluated passed violations ∈ r.log stepCount documents ↔
      ∃ g, r.qualityGate = some g ∧ g.passed = passed ∧ g.violations = violations := by
  have hdocuments : Event.qualityGateEvaluated passed violations ∉
      documents.map DocumentOutcome.told := by
    intro h
    rcases mem_told_documents h with ⟨_, _, h⟩ | ⟨_, _, h⟩ <;> cases h
  simp only [log, List.mem_append, hdocuments]
  simp [StepResult.told, StepResult.toldOfEnd]

theorem count_finalizing_log :
    (r.log stepCount documents).count (.phaseChanged .finalizing) = 1 := by
  have hsteps : .phaseChanged .finalizing ∉ r.steps.zipIdx.flatMap fun s => s.1.told s.2 := by
    simp [StepResult.told]
  have hend : .phaseChanged .finalizing ∉
      r.steps.getLast?.toList.flatMap StepResult.toldOfEnd := by
    simp [StepResult.toldOfEnd]
  have hgate : .phaseChanged .finalizing ∉
      r.qualityGate.toList.map fun g => Event.qualityGateEvaluated g.passed g.violations := by
    simp
  simp only [log, List.count_append, List.count_eq_zero_of_not_mem hsteps,
    List.count_eq_zero_of_not_mem hend, List.count_eq_zero_of_not_mem hgate,
    List.count_eq_zero_of_not_mem (phase_notMem_told_documents .finalizing)]
  simp

theorem formats_writeEach (folder : Path) (texts : List (String × String × String))
    (fs : FileSystem) : (writeEach folder texts fs).1.map (·.format) = texts.map (·.1) := by
  induction texts generalizing fs with
  | nil => rfl
  | cons d rest ih => simp [writeEach, ih]

theorem formats_writeAll (folder : Path) (fs : FileSystem) :
    (r.writeAll folder fs).1.map (·.format) = ["json", "html"] := by
  unfold writeAll
  split
  · rfl
  · rw [formats_writeEach]
    rfl

end Report

namespace Turn

theorem eventsFrom_append (s : Settings) (index : Nat) (ts us : List (Turn σ)) :
    eventsFrom s index (ts ++ us) =
      eventsFrom s index ts ++ eventsFrom s (index + ts.length) us := by
  induction ts generalizing index with
  | nil => rfl
  | cons t rest ih =>
    simp only [List.cons_append, eventsFrom, ih, List.append_assoc, List.length_cons]
    rw [show index + 1 + rest.length = index + (rest.length + 1) by omega]

theorem eventsFrom_of_not_failed {s : Settings} {ts : List (Turn σ)} (index : Nat)
    (h : ∀ t ∈ ts, t.failed s = false) :
    eventsFrom s index ts =
      ((ts.map (step s)).zipIdx index).flatMap fun r => r.1.told r.2 := by
  induction ts generalizing index with
  | nil => rfl
  | cons t rest ih =>
    have ht := reason?_of_not_failed (h t List.mem_cons_self)
    have hrest := ih (index + 1) fun u hu => h u (List.mem_cons_of_mem t hu)
    simp only [eventsFrom, toldOfEnd, ht, hrest, List.append_nil, List.map_cons,
      List.zipIdx_cons, List.flatMap_cons]
    rfl

/-- The report's step tells of the run's end what its turn did. -/
theorem toldOfEnd_step (s : Settings) (t : Turn σ) : (t.step s).toldOfEnd = t.toldOfEnd s := by
  cases hv : t.verdict s <;>
    simp [StepResult.toldOfEnd, toldOfEnd, step, hv, Verdict.status, Verdict.reason?]

theorem toldOfEnd_of_not_failed {s : Settings} {t : Turn σ} (h : t.failed s = false) :
    t.toldOfEnd s = [] := by
  rw [toldOfEnd, reason?_of_not_failed h]

end Turn

namespace Pipeline

/-- The turns of a run tell of its steps in order, and then of its end if the last one failed. -/
theorem eventsFrom_executed (p : Pipeline σ) (m : Machine σ) :
    let steps := (p.executed m).map (Turn.step p.settings)
    Turn.eventsFrom p.settings 0 (p.executed m) =
      steps.zipIdx.flatMap (fun s => s.1.told s.2) ++
      steps.getLast?.toList.flatMap StepResult.toldOfEnd := by
  intro steps
  rcases p.executed_cases m with ⟨_, hall⟩ | ⟨before, t, reason, hexec, hbefore, hv⟩
  · have hend : steps.getLast?.toList.flatMap StepResult.toldOfEnd = [] := by
      rw [List.flatMap_eq_nil_iff]
      intro r hr
      have hmem : r ∈ steps := List.mem_of_getLast? (Option.mem_toList.1 hr)
      obtain ⟨t, ht, rfl⟩ := List.mem_map.1 hmem
      rw [Turn.toldOfEnd_step, Turn.toldOfEnd_of_not_failed (hall t ht)]
    rw [Turn.eventsFrom_of_not_failed 0 hall, hend, List.append_nil]
  · simp only [steps, hexec, Turn.eventsFrom_append, Turn.eventsFrom_of_not_failed 0 hbefore,
      Turn.eventsFrom, List.map_append, List.zipIdx_append, List.flatMap_append,
      List.append_assoc, List.append_nil]
    simp [Turn.toldOfEnd_step]
    rfl

/-- The events of a run are the log of its report. -/
theorem events_eq_log (p : Pipeline σ) (metadata : Metadata) (m : Machine σ) :
    let run := p.run metadata m
    run.events = run.report.log p.steps.length run.documents := by
  intro run
  have hsteps : run.report.steps = (p.executed m).map (Turn.step p.settings) := report_steps
  have htold : GateVerdict.told (p.gate? (p.drafted metadata m)) =
      run.report.qualityGate.toList.map fun g => .qualityGateEvaluated g.passed g.violations := by
    rw [show run.report.qualityGate = _ from report_gate]
    cases p.gate? (p.drafted metadata m) <;> rfl
  have hdocuments : run.documents.map documentEvent = run.documents.map DocumentOutcome.told := rfl
  obtain ⟨hproject, hrunId⟩ : run.report.project = metadata.project ∧
      run.report.runId = metadata.runId := report_metadata
  rw [Report.log, hsteps, ← htold, ← hdocuments, hproject, hrunId]
  simp only [run, run_eq, eventsFrom_executed, List.append_assoc]

/-- The events of a run are the log of its report and documents, in that order and nothing else. So
a run that aborts does not evaluate the gate, and it is finalized exactly once. -/
theorem run_events (p : Pipeline σ) (metadata : Metadata) (m : Machine σ) :
    let run := p.run metadata m
    run.events = run.report.log p.steps.length run.documents ∧
    run.report.project = metadata.project ∧ run.report.runId = metadata.runId ∧
    run.documents.map (·.format) = ["json", "html"] ∧
    (∀ s ∈ run.report.steps, s.errorMessage.isSome = true ↔ s.status = .failed) ∧
    (∀ passed violations, ¬(.phaseChanged .aborting ∈ run.events ∧
      .qualityGateEvaluated passed violations ∈ run.events)) ∧
    run.events.count (.phaseChanged .finalizing) = 1 := by
  intro run
  have hevents : run.events = run.report.log p.steps.length run.documents :=
    events_eq_log p metadata m
  obtain ⟨hproject, hrunId⟩ : run.report.project = metadata.project ∧
      run.report.runId = metadata.runId := report_metadata
  have hformats : run.documents.map (·.format) = ["json", "html"] := by
    simp only [run, run_eq]
    exact Report.formats_writeAll _ _
  refine ⟨hevents, hproject, hrunId, hformats, errorMessage_report_steps, ?_, ?_⟩
  · rintro passed violations ⟨haborting, hgate⟩
    rw [hevents, Report.aborting_mem_log_iff] at haborting
    rw [hevents, Report.gate_mem_log_iff] at hgate
    obtain ⟨s, hs, hfailed⟩ := haborting
    obtain ⟨g, hg, _⟩ := hgate
    have hnone : run.report.qualityGate = none :=
      gate_eq_none_iff.2 ⟨s, List.mem_of_getLast? hs, hfailed⟩
    rw [hnone] at hg
    cases hg
  · rw [hevents]
    exact Report.count_finalizing_log

end Pipeline
end BuildPipeline
