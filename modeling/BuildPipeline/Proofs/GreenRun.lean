import BuildPipeline.Proofs.CallLog
import BuildPipeline.Proofs.Metrics
import Mathlib.Data.List.Nodup
import Mathlib.Tactic.Set

/-! When a run is green. Its status is SUCCESS exactly if every planned command was answered well,
the steps found what they look for, and no threshold was missed. -/
namespace BuildPipeline
variable {σ : Type}

theorem classify_eq_success_iff {policy : FailurePolicy} {least : Count}
    {result : Except Failure StepRun} :
    classify policy least result = .success ↔ ∃ run, result = .ok run ∧ run.succeeded = true := by
  cases result with
  | error f => simp [classify]
  | ok run =>
    cases hrun : run.succeeded with
    | true => simp [classify, hrun]
    | false =>
      cases hcounts : run.detail.testCounts? with
      | none => cases policy <;> simp [classify, hrun, hcounts]
      | some counts =>
        simp only [classify, hrun, hcounts]
        split
        · next h => cases h
        · split
          · simp [hrun]
          · cases policy <;> simp [hrun]

theorem Verdict.status_eq_success_iff {v : Verdict} : v.status = .success ↔ v = .success := by
  cases v <;> simp [status]

namespace Turn

/-- A standard step succeeded exactly if it came through its plan and its demands are met; of its
own accord only the artifacts step may end early. -/
theorem Kept.verdict_eq_success_iff {s : Settings} {t : Turn (σ × List Call)} (h : t.Kept s) :
    t.verdict s = .success ↔
      t.calls.map Call.command = s.planned t.handler.kind ∧
      s.Demands t.handler.kind t.calls t.after.files ∧
      (t.handler.kind = .artifacts → ∃ run, t.outcome = .finished run) := by
  have hcourse := h.course
  rw [verdict, classify_eq_success_iff]
  constructor
  · rintro ⟨run, hresult, hsucceeded⟩
    rw [hresult] at hcourse
    obtain ⟨hcommands, hjudged⟩ := hcourse.of_ok
    exact ⟨hcommands, hjudged.succeeded.1 hsucceeded, fun _ => ⟨run, result_eq_ok_iff.1 hresult⟩⟩
  · rintro ⟨_, hdemands, hfinished⟩
    cases hresult : t.result with
    | ok run =>
      rw [hresult] at hcourse
      exact ⟨run, rfl, hcourse.of_ok.2.succeeded.2 hdemands⟩
    | error f =>
      rw [hresult] at hcourse
      rcases hcourse.of_error with ⟨c, hc, hfault⟩ | hstop
      · rw [(hdemands.green c hc).fault?] at hfault
        cases hfault
      · obtain ⟨run, hrun⟩ := hfinished (StepKind.eq_artifacts_of_mayStop hstop)
        rw [result_eq_ok_iff.2 hrun] at hresult
        cases hresult

end Turn

theorem Handler.kind_standard (kind : StepKind) :
    (Handler.standard kind : Handler σ).kind = kind := by
  cases kind <;> rfl

namespace Pipeline

section Status
variable {p : Pipeline σ} {metadata : Metadata} {m : Machine σ}

/-- A run is a success exactly if every step is and the gate misses nothing. -/
theorem report_status_eq_success_iff : (p.run metadata m).report.status = .success ↔
    (∀ t ∈ p.executed m, t.verdict p.settings = .success) ∧
    QualityGate.violations (p.drafted metadata m).metrics p.settings.thresholds = [] := by
  have hsteps : (∀ s ∈ (p.drafted metadata m).steps, s.status = .success) ↔
      ∀ t ∈ p.executed m, t.verdict p.settings = .success := by
    simp [drafted, Draft.follow, Turn.step, Verdict.status_eq_success_iff]
  have hunfailed (h : ∀ t ∈ p.executed m, t.verdict p.settings = .success) :
      ∀ t ∈ p.executed m, t.failed p.settings = false :=
    fun t ht => Turn.not_failed_of_success (h t ht)
  rw [report_status, Draft.status_eq_success_iff, hsteps]
  constructor
  · rintro ⟨_, hall, hmissed⟩
    rw [(report_of_not_failed metadata (hunfailed hall)).2.1] at hmissed
    exact ⟨hall, List.map_eq_nil_iff.1 hmissed⟩
  · rintro ⟨hall, hmissed⟩
    obtain ⟨herrors, hgate, _⟩ := report_of_not_failed metadata (hunfailed hall)
    refine ⟨?_, hall, ?_⟩
    · rw [report_errors] at herrors
      exact herrors
    · rw [hgate]
      exact List.map_eq_nil_iff.2 hmissed

/-- The gate's own entry in the report changes nothing that the gate looks at. -/
theorem violations_report_metrics :
    QualityGate.violations (p.run metadata m).report.metrics p.settings.thresholds = [] ↔
    QualityGate.violations (p.drafted metadata m).metrics p.settings.thresholds = [] := by
  rw [report_metrics]
  cases (p.run metadata m).report.qualityGate with
  | none => rfl
  | some gate =>
    rw [Draft.settle, Draft.recordMetric, QualityGate.violations_eq_nil_iff,
      QualityGate.violations_eq_nil_iff, QualityGate.rawPassRate_insert_passRate]
    simp only [QualityGate.recorded_insert_of_ne (Metric.coverage_ne_passRate _)]

end Status

variable {settings : Settings} {r : Runner σ} {m : Machine σ}

theorem kinds_turns (kinds : List StepKind) (m : Machine (σ × List Call)) :
    ((ofSettings settings r.watched).turns (kinds.map Handler.standard) m).map (·.handler.kind) =
      kinds := by
  have h := congrArg (List.map Handler.kind)
    (handlers_turns (ofSettings settings r.watched) (kinds.map Handler.standard) m)
  simpa [Function.comp_def, Handler.kind_standard] using h

theorem kinds_observed : (observed settings r m).map (·.handler.kind) <+: StepKind.sequence := by
  have h := (Turn.upToFailure_prefix settings ((ofSettings settings r.watched).turns
    (StepKind.sequence.map Handler.standard) (opened m.watched))).map (·.handler.kind)
  rwa [kinds_turns] at h

/-- A run has at most one turn of each kind. -/
theorem eq_of_kind_eq {t u : Turn (σ × List Call)} (ht : t ∈ observed settings r m)
    (hu : u ∈ observed settings r m) (h : t.handler.kind = u.handler.kind) : t = u := by
  have hnodup : ((observed settings r m).map (·.handler.kind)).Nodup :=
    kinds_observed.sublist.nodup (by decide)
  exact List.inj_on_of_nodup_map hnodup ht hu h

/-- A run without a failed step has a turn of every kind. -/
theorem exists_turn_of_kind (h : ∀ t ∈ observed settings r m, t.failed settings = false)
    (kind : StepKind) : ∃ t ∈ observed settings r m, t.handler.kind = kind := by
  have hall : observed settings r m = (ofSettings settings r.watched).turns
      (StepKind.sequence.map Handler.standard) (opened m.watched) := by
    rcases observed_cases settings r m with ⟨heq, _⟩ | ⟨earlier, t, reason, heq, _, hv⟩
    · exact heq
    · have ht := h t (by simp [heq])
      rw [Turn.failed_iff.2 ⟨reason, hv⟩] at ht
      cases ht
  have hkinds : (observed settings r m).map (·.handler.kind) = StepKind.sequence := by
    rw [hall, kinds_turns]
  have hmem : kind ∈ (observed settings r m).map (·.handler.kind) := by
    rw [hkinds]
    cases kind <;> decide
  exact List.mem_map.1 hmem

/-- The test step issues one command. -/
theorem calls_eq_singleton {t : Turn (σ × List Call)} (hk : t.handler.kind = .tests)
    (h : t.calls.map Call.command = settings.planned t.handler.kind) : ∃ c, t.calls = [c] := by
  rw [hk] at h
  obtain ⟨c, hc, _⟩ := List.map_eq_singleton_iff.1 h
  exact ⟨c, hc⟩

/-- All steps of a run succeeded if and only if each came through its plan with green calls and
found what it looks for. -/
theorem verdicts_success_iff (settings : Settings) (r : Runner σ) (m : Machine σ) :
    (∀ t ∈ observed settings r m, t.verdict settings = .success) ↔
      (∀ kind : StepKind, ∃ t ∈ observed settings r m, t.handler.kind = kind ∧
        t.calls.map Call.command = settings.planned kind ∧ ∀ c ∈ t.calls, c.Green) ∧
      (∃ t ∈ observed settings r m, t.handler.kind = .environment ∧
        t.after.files.existsAt (settings.resolve ⟨settings.manifest⟩) = true) ∧
      (∃ t ∈ observed settings r m, t.handler.kind = .tests ∧ ∃ c ∈ t.calls, ∃ o,
        c.answer = .ok o ∧ ((Scrapers.ofSettings settings).tests.scrape o.combined).failed = 0) ∧
      ∃ t ∈ observed settings r m, t.handler.kind = .artifacts ∧
        ∃ run, t.outcome = .finished run := by
  set turns := observed settings r m
  have hkept : ∀ t ∈ turns, t.Kept settings := kept_observed settings r m
  constructor
  · intro hall
    have hunfailed : ∀ t ∈ turns, t.failed settings = false :=
      fun t ht => Turn.not_failed_of_success (hall t ht)
    have hturn (kind : StepKind) : ∃ t ∈ turns, t.handler.kind = kind ∧
        t.calls.map Call.command = settings.planned kind ∧
        settings.Demands kind t.calls t.after.files ∧
        (kind = .artifacts → ∃ run, t.outcome = .finished run) := by
      obtain ⟨t, ht, rfl⟩ := exists_turn_of_kind hunfailed kind
      exact ⟨t, ht, rfl, (hkept t ht).verdict_eq_success_iff.1 (hall t ht)⟩
    refine ⟨?_, ?_, ?_, ?_⟩
    · intro kind
      obtain ⟨t, ht, hk, hcommands, hdemands, _⟩ := hturn kind
      exact ⟨t, ht, hk, hcommands, hdemands.green⟩
    · obtain ⟨t, ht, hk, _, hdemands, _⟩ := hturn .environment
      exact ⟨t, ht, hk, hdemands.2⟩
    · obtain ⟨t, ht, hk, hcommands, hdemands, _⟩ := hturn .tests
      obtain ⟨c, hc⟩ := calls_eq_singleton hk (hk ▸ hcommands)
      have hmem : c ∈ t.calls := by simp [hc]
      obtain ⟨o, ho, _, _⟩ := hdemands.green c hmem
      exact ⟨t, ht, hk, c, hmem, o, ho, hdemands.2 c hmem o ho⟩
    · obtain ⟨t, ht, hk, _, _, hfinished⟩ := hturn .artifacts
      exact ⟨t, ht, hk, hfinished rfl⟩
  · rintro ⟨hgreen, hmanifest, htests, hartifacts⟩ t ht
    obtain ⟨u, hu, hk, hcommands, hcalls⟩ := hgreen t.handler.kind
    obtain rfl := eq_of_kind_eq hu ht hk
    refine (hkept u ht).verdict_eq_success_iff.2 ⟨hcommands, ?_, ?_⟩
    · cases hkind : u.handler.kind with
      | environment =>
        obtain ⟨v, hv, hvk, hexists⟩ := hmanifest
        obtain rfl := eq_of_kind_eq hv ht (hvk.trans hkind.symm)
        exact ⟨hcalls, hexists⟩
      | tests =>
        obtain ⟨v, hv, hvk, c, hc, o, ho, hzero⟩ := htests
        obtain rfl := eq_of_kind_eq hv ht (hvk.trans hkind.symm)
        obtain ⟨d, hd⟩ := calls_eq_singleton hkind hcommands
        rw [hd, List.mem_singleton] at hc
        subst hc
        refine ⟨hcalls, ?_⟩
        intro c' hc' o' ho'
        rw [hd, List.mem_singleton] at hc'
        rw [hc', ho] at ho'
        cases ho'
        exact hzero
      | install | audit | lint | coverage | artifacts => exact hcalls
    · intro hkind
      obtain ⟨v, hv, hvk, hfinished⟩ := hartifacts
      obtain rfl := eq_of_kind_eq hv ht (hvk.trans hkind.symm)
      exact hfinished

/-- A run is green if and only if each step issued its planned commands and all were answered with
exit code zero in time, the manifest was there, no test failed, the artifacts step met no error, and
coverage and pass rate reach their thresholds. -/
theorem run_success_iff (settings : Settings) (r : Runner σ) (metadata : Metadata)
    (m : Machine σ) :
    let report := ((ofSettings settings r).run metadata m).report
    let turns := observed settings r m
    report.status = .success ↔
      (∀ kind : StepKind, ∃ t ∈ turns, t.handler.kind = kind ∧
        t.calls.map Call.command = settings.planned kind ∧ ∀ c ∈ t.calls, c.Green) ∧
      (∃ t ∈ turns, t.handler.kind = .environment ∧
        t.after.files.existsAt (settings.resolve ⟨settings.manifest⟩) = true) ∧
      (∃ t ∈ turns, t.handler.kind = .tests ∧ ∃ c ∈ t.calls, ∃ o, c.answer = .ok o ∧
        ((Scrapers.ofSettings settings).tests.scrape o.combined).failed = 0) ∧
      (∃ t ∈ turns, t.handler.kind = .artifacts ∧ ∃ run, t.outcome = .finished run) ∧
      (∀ e ∈ settings.thresholds.coverage.entries,
        e.2.value ≤ QualityGate.recorded report.metrics (Metric.coverage e.1)) ∧
      settings.thresholds.passRate.value ≤ QualityGate.rawPassRate report.metrics := by
  intro report turns
  have hreport : report = ((ofSettings settings r.watched).run metadata m.watched).report :=
    report_watched settings r metadata m
  have hstatus : report.status = .success ↔ (∀ t ∈ turns, t.verdict settings = .success) ∧
      QualityGate.violations report.metrics settings.thresholds = [] := by
    rw [hreport]
    exact report_status_eq_success_iff.trans
      (and_congr_right fun _ => violations_report_metrics.symm)
  rw [hstatus, QualityGate.violations_eq_nil_iff, verdicts_success_iff]
  simp only [and_assoc, turns]

end Pipeline
end BuildPipeline
