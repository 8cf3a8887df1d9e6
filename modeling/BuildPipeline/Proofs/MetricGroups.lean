import BuildPipeline.Proofs.Counts
import BuildPipeline.Proofs.ShownValues
import BuildPipeline.Proofs.GreenRun
import BuildPipeline.Proofs.TestStep

/-! The metrics in a report of the standard steps. Tests and coverage each record a whole group or
nothing; a run that did not fail adds the pass rate. -/
namespace BuildPipeline
variable {σ α : Type}

namespace Metric

def testNames : List String := ["tests.passed", "tests.failed", "tests.skipped", "tests.total"]

def coverageNames : List String :=
  ["coverage.statements", "coverage.branches", "coverage.functions", "coverage.lines"]

theorem testNames_disjoint {name : String} (h : name ∈ testNames) :
    name ∉ coverageNames ∧ name ≠ passRate := by
  revert name
  decide

end Metric

/-! ### Counts and the pass rate -/

/-- The total that a scraper reports is that of the parts, stopped at the largest count. -/
theorem Scrapers.total_scrape (s : Settings) (text : String) :
    let counts := (ofSettings s).tests.scrape text
    counts.total = (counts.passed.add counts.failed).add counts.skipped := by
  unfold ofSettings
  cases s.testReporter with
  | mocha => rfl
  | jest =>
    change (Scrape.jest text).total =
      ((Scrape.jest text).passed.add (Scrape.jest text).failed).add (Scrape.jest text).skipped
    unfold Scrape.jest
    split
    · decide
    · rfl

theorem Scrapers.toNat_total_scrape (s : Settings) (text : String) :
    let counts := (ofSettings s).tests.scrape text
    counts.total.toNat =
      min (counts.passed.toNat + counts.failed.toNat + counts.skipped.toNat) (2 ^ 64 - 1) ∧
    counts.passed ≤ counts.total := by
  intro counts
  have htotal : counts.total = .saturate
      (counts.passed.toNat + counts.failed.toNat + counts.skipped.toNat) :=
    (total_scrape s text).trans (Count.add_add _ _ _)
  have hnat : counts.total.toNat =
      min (counts.passed.toNat + counts.failed.toNat + counts.skipped.toNat) (2 ^ 64 - 1) := by
    rw [htotal]
    exact Count.toNat_saturate _
  have hlt := counts.passed.toNat_lt
  refine ⟨hnat, UInt64.le_iff_toNat_le.2 ?_⟩
  omega

namespace QualityGate

/-- Counts as exact metrics. -/
def exactCounts (counts : TestCounts) : SortedMap Rat :=
  .ofList [(Metric.testsPassed, counts.passed.toNat), (Metric.testsFailed, counts.failed.toNat),
    (Metric.testsSkipped, counts.skipped.toNat), (Metric.testsTotal, counts.total.toNat)]

theorem round2_bounds {value : Rat} (hlow : 0 ≤ value) (hhigh : value ≤ 100) :
    0 ≤ round2 value ∧ round2 value ≤ 100 := by
  have hfloor : 0 ≤ (value * 100 + 1 / 2).floor := Rat.le_floor_iff.2 (by push_cast; linarith)
  have hceil : (value * 100 + 1 / 2).floor < 10001 := Rat.floor_lt_iff.2 (by push_cast; linarith)
  have hlow' : (0 : Rat) ≤ (value * 100 + 1 / 2).floor := by exact_mod_cast hfloor
  have hhigh' : ((value * 100 + 1 / 2).floor : Rat) ≤ 10000 := by
    exact_mod_cast Int.le_of_lt_add_one hceil
  rw [round2_of_nonneg hlow]
  constructor <;> linarith

theorem recorded_exactCounts (counts : TestCounts) :
    recorded (exactCounts counts) Metric.testsPassed = counts.passed.toNat ∧
      recorded (exactCounts counts) Metric.testsTotal = counts.total.toNat := by
  constructor <;>
    simp [recorded, exactCounts, SortedMap.ofList, SortedMap.get?_insert, Metric.testsPassed,
      Metric.testsFailed, Metric.testsSkipped, Metric.testsTotal]

/-- The exact pass rate lies between 0 and 100, and is 0 if there are no tests. -/
theorem passRate_exact {counts : TestCounts} (h : counts.passed ≤ counts.total) :
    0 ≤ passRate (exactCounts counts) ∧ passRate (exactCounts counts) ≤ 100 ∧
      (counts.total = 0 → passRate (exactCounts counts) = 0) := by
  obtain ⟨hpassed, htotal⟩ := recorded_exactCounts counts
  have hrate := rawPassRate_of_counts hpassed htotal
  have hle : counts.passed.toNat ≤ counts.total.toNat := UInt64.le_iff_toNat_le.1 h
  have hbounds : 0 ≤ rawPassRate (exactCounts counts) ∧ rawPassRate (exactCounts counts) ≤ 100 := by
    have hpos : (0 : Rat) < (max counts.total.toNat 1 : Nat) := by
      exact_mod_cast Nat.lt_of_lt_of_le Nat.one_pos (Nat.le_max_right _ _)
    rw [hrate]
    refine ⟨div_nonneg (by positivity) hpos.le, (div_le_iff₀ hpos).2 ?_⟩
    have hscaled : counts.passed.toNat * 100 ≤ 100 * max counts.total.toNat 1 := by omega
    exact_mod_cast hscaled
  obtain ⟨hlow, hhigh⟩ := round2_bounds hbounds.1 hbounds.2
  refine ⟨hlow, hhigh, ?_⟩
  intro hnone
  rw [hnone] at hle
  have hzero : counts.passed.toNat = 0 := Nat.le_zero.1 hle
  rw [passRate, hrate, hzero, Nat.zero_mul, Nat.cast_zero, zero_div]
  decide +kernel

end QualityGate

/-! ### What a turn records -/

/-- A coverage summary is found exactly if its file is text, and a document with an object of
totals. -/
theorem Settings.coverageFound_isSome {s : Settings} {files : FileSystem} :
    (s.coverageFound files).isSome = true ↔ ∃ text document members,
      files.readText (s.resolve ⟨s.coverageSummary⟩) = .ok text ∧
      Json.parseKept? text = some document ∧
      document.member? "total" = some (.object members) := by
  unfold coverageFound
  cases hread : files.readText (s.resolve ⟨s.coverageSummary⟩) with
  | error e => simp
  | ok text =>
    unfold Scrape.coverageSummary
    cases hparse : Json.parseKept? text with
    | none => simp [hparse]
    | some document =>
      cases htotal : document.member? "total" with
      | none => simp [hparse, htotal]
      | some total => cases total <;> simp [hparse, htotal]

namespace Turn
variable {s : Settings} {t : Turn (σ × List Call)}

theorem Kept.clear_of_ok {run : StepRun} (h : t.Kept s) (hresult : t.result = .ok run) :
    ∀ c ∈ t.calls, c.fault? = none := by
  rcases h.course.of_fault with hclear | ⟨_, _, _, _, _, _, herror⟩
  · exact hclear
  · rw [hresult] at herror
    cases herror

/-- A turn records the names of its group, or none. -/
theorem Kept.names_metrics (h : t.Kept s) (name : String) : name ∈ t.metrics.map Prod.fst ↔
    (∀ c ∈ t.calls, c.fault? = none) ∧
      (t.handler.kind = .tests ∧ name ∈ Metric.testNames ∨
        t.handler.kind = .coverage ∧ name ∈ Metric.coverageNames ∧
          (s.coverageFound t.after.files).isSome = true) := by
  have hcourse := h.course
  cases hresult : t.result with
  | error f =>
    -- an answer that is a failure, or the artifacts step, which has no metrics
    rw [hresult] at hcourse
    have hnone : t.metrics = [] := by rw [metrics, hresult]
    rw [hnone]
    refine iff_of_false (by simp) ?_
    rintro ⟨hclear, hkind⟩
    rcases hcourse.of_error with ⟨c, hc, hfault⟩ | hstop
    · rw [hclear c hc] at hfault
      cases hfault
    · rw [StepKind.eq_artifacts_of_mayStop hstop] at hkind
      simp at hkind
  | ok run =>
    have hclear := h.clear_of_ok hresult
    rw [hresult] at hcourse
    have hmeasures := hcourse.of_ok.2.measures
    have hmetrics : t.metrics = run.metrics := by rw [metrics, hresult]
    rw [hmetrics]
    cases hkind : t.handler.kind with
    | tests =>
      rw [hkind] at hmeasures
      obtain ⟨call, o, _, _, hrun⟩ := hmeasures
      have hnames : run.metrics.map Prod.fst = Metric.testNames := by
        rw [hrun]
        rfl
      rw [hnames]
      simpa using fun _ => hclear
    | coverage =>
      rw [hkind] at hmeasures
      have hrun : run.metrics = (s.coverageFound t.after.files).elim [] Step.coverageMetrics :=
        hmeasures
      rw [hrun]
      cases s.coverageFound t.after.files with
      | none => simp
      | some summary =>
        have hnames : (Step.coverageMetrics summary).map Prod.fst = Metric.coverageNames := rfl
        rw [Option.elim, hnames]
        simpa using fun _ => hclear
    | environment | install | audit | lint | artifacts =>
      rw [hkind] at hmeasures
      have hrun : run.metrics = [] := hmeasures
      simp [hrun]

/-- The test command of a turn that nothing ended early was issued once, and what it printed was
recorded. -/
theorem Kept.metrics_tests (h : t.Kept s) (hkind : t.handler.kind = .tests)
    (hclear : ∀ c ∈ t.calls, c.fault? = none) :
    ∃ c o, t.calls = [c] ∧ c.command = s.commands.test ∧ c.answer = .ok o ∧ o.timedOut = false ∧
      t.metrics = Step.testMetrics ((Scrapers.ofSettings s).tests.scrape o.combined) := by
  have hcourse := h.course
  rw [hkind] at hcourse
  obtain ⟨run, hresult, hcommands, hjudged⟩ := hcourse.of_clear hclear fun _ => id
  obtain ⟨c, o, hcalls, ho, hmetrics⟩ := hjudged.measures
  rw [hcalls] at hclear hcommands
  have htime := Call.not_timedOut ho (hclear c List.mem_cons_self)
  refine ⟨c, o, hcalls, List.singleton_inj.1 hcommands, ho, htime, ?_⟩
  rw [metrics, hresult]
  exact hmetrics

end Turn

namespace Pipeline

section Report
variable {p : Pipeline σ} {metadata : Metadata} {m : Machine σ}

/-- The names in a report are those that turns recorded, and the pass rate's if the run did not
fail. -/
theorem mem_report_metrics {name : String} : name ∈ (p.run metadata m).report.metrics.keys ↔
    (∃ t ∈ p.executed m, name ∈ t.metrics.map Prod.fst) ∨
      name = Metric.passRate ∧ (p.run metadata m).report.status ≠ .failed := by
  have hdrafted : name ∈ (p.drafted metadata m).metrics.keys ↔
      ∃ t ∈ p.executed m, name ∈ t.metrics.map Prod.fst := by
    rw [metrics_drafted, SortedMap.mem_keys_insertAll, List.map_flatMap, List.mem_flatMap]
  rw [report_metrics, ← hdrafted]
  rcases executed_cases p m with ⟨_, hall⟩ | ⟨before, t, reason, heq, hbefore, hv⟩
  · obtain ⟨-, hgate, hstatus⟩ := report_of_not_failed metadata hall
    rw [hgate, SortedMap.mem_keys_iff, SortedMap.mem_keys_iff, Draft.settle, Draft.recordMetric,
      SortedMap.get?_insert]
    by_cases hname : name = Metric.passRate <;> simp [hname, hstatus]
  · obtain ⟨-, hgate, hstatus⟩ := report_of_failed metadata heq hbefore hv
    rw [hgate, Draft.settle]
    simp [hstatus]

theorem get?_report_metrics {name : String} (h : name ≠ Metric.passRate) :
    (p.run metadata m).report.metrics.get? name =
      ((p.executed m).flatMap Turn.metrics).reverse.lookup name := by
  have hdrafted : (p.drafted metadata m).metrics.get? name =
      ((p.executed m).flatMap Turn.metrics).reverse.lookup name := by
    rw [metrics_drafted, SortedMap.get?_insertAll]
    exact Option.or_none
  rw [report_metrics, ← hdrafted]
  cases (p.run metadata m).report.qualityGate with
  | none => rfl
  | some gate => rw [Draft.settle, Draft.recordMetric, SortedMap.get?_insert, if_neg h]

theorem report_passRate (h : (p.run metadata m).report.status ≠ .failed) :
    (p.run metadata m).report.metrics.get? Metric.passRate =
      some (QualityGate.passRate (p.run metadata m).report.metrics) := by
  rcases executed_cases p m with ⟨_, hall⟩ | ⟨before, t, reason, heq, hbefore, hv⟩
  · obtain ⟨hgate, hmetrics⟩ := report_metrics_of_gate (report_of_not_failed metadata hall).2.1
    rw [hmetrics, SortedMap.get?_insert, if_pos rfl, QualityGate.passRate_insert_passRate]
    rfl
  · exact absurd (report_of_failed metadata heq hbefore hv).2.2 h

end Report

variable {settings : Settings} {r : Runner σ} {m : Machine σ} {t : Turn (σ × List Call)}

/-- A run records a name exactly if the turn of its group came that far. -/
theorem names_observed (name : String) :
    (∃ t ∈ observed settings r m, name ∈ t.metrics.map Prod.fst) ↔
      (name ∈ Metric.testNames ∧ ∃ t ∈ observed settings r m,
        t.handler.kind = .tests ∧ ∀ c ∈ t.calls, c.fault? = none) ∨
      (name ∈ Metric.coverageNames ∧ ∃ t ∈ observed settings r m,
        t.handler.kind = .coverage ∧ (∀ c ∈ t.calls, c.fault? = none) ∧
          (settings.coverageFound t.after.files).isSome = true) := by
  have hnames (t : Turn (σ × List Call)) (ht : t ∈ observed settings r m) :=
    (kept_observed settings r m t ht).names_metrics name
  constructor
  · rintro ⟨t, ht, hmem⟩
    obtain ⟨hclear, ⟨hkind, hname⟩ | ⟨hkind, hname, hfound⟩⟩ := (hnames t ht).1 hmem
    · exact .inl ⟨hname, t, ht, hkind, hclear⟩
    · exact .inr ⟨hname, t, ht, hkind, hclear, hfound⟩
  · rintro (⟨hname, t, ht, hkind, hclear⟩ | ⟨hname, t, ht, hkind, hclear, hfound⟩)
    · exact ⟨t, ht, (hnames t ht).2 ⟨hclear, .inl ⟨hkind, hname⟩⟩⟩
    · exact ⟨t, ht, (hnames t ht).2 ⟨hclear, .inr ⟨hkind, hname, hfound⟩⟩⟩

/-- No other turn of a run records what the tests turn does. -/
theorem get?_report_tests (metadata : Metadata) (ht : t ∈ observed settings r m)
    (hkind : t.handler.kind = .tests) {counts : TestCounts}
    (hmetrics : t.metrics = Step.testMetrics counts) {name : String} {value : Float}
    (hmem : (name, value) ∈ Step.testMetrics counts) :
    ((ofSettings settings r).run metadata m).report.metrics.get? name = some value := by
  have hname : name ∈ Metric.testNames := List.mem_map_of_mem (f := Prod.fst) hmem
  rw [report_watched, get?_report_metrics (Metric.testNames_disjoint hname).2]
  refine SortedMap.lookup_eq_some_of_unique ?_ ?_
  · rw [List.mem_reverse, List.mem_flatMap]
    exact ⟨t, ht, hmetrics ▸ hmem⟩
  · intro other hother
    rw [List.mem_reverse, List.mem_flatMap] at hother
    obtain ⟨u, hu, hother⟩ := hother
    have hgroup := ((kept_observed settings r m u hu).names_metrics name).1
      (List.mem_map_of_mem (f := Prod.fst) hother)
    rcases hgroup.2 with ⟨hukind, _⟩ | ⟨_, hcoverage, _⟩
    · obtain rfl := eq_of_kind_eq hu ht (hukind.trans hkind.symm)
      rw [hmetrics] at hother
      exact (Prod.mk.inj (List.inj_on_of_nodup_map (Step.nodup_testMetrics counts) hother hmem
        rfl)).2
    · exact absurd hcoverage (Metric.testNames_disjoint hname).1

/-- A run that did not fail ran the tests. -/
theorem exists_tests_of_not_failed {metadata : Metadata}
    (h : ((ofSettings settings r.watched).run metadata m.watched).report.status ≠ .failed) :
    ∃ t ∈ observed settings r m, t.handler.kind = .tests ∧ ∀ c ∈ t.calls, c.fault? = none := by
  rcases observed_cases settings r m with ⟨_, hall⟩ | ⟨before, t, reason, heq, hbefore, hv⟩
  · obtain ⟨t, ht, hkind⟩ := exists_turn_of_kind hall .tests
    have hclear := (kept_observed settings r m t ht).clear_of_not_failed (hall t ht)
    exact ⟨t, ht, hkind, fun c hc => hclear (_, c) (List.mem_map_of_mem hc)⟩
  · exact absurd (report_of_failed metadata heq hbefore hv).2.2 h

/-- Without tests the pass rate that a report shows is zero. -/
theorem passRate_of_no_tests {metrics : SortedMap Float}
    (hpassed : metrics.get? Metric.testsPassed = some (0 : Count).toFloat)
    (htotal : metrics.get? Metric.testsTotal = some (0 : Count).toFloat) :
    QualityGate.passRate metrics = 0 := by
  rw [QualityGate.passRate, QualityGate.rawPassRate, QualityGate.recorded, QualityGate.recorded,
    hpassed, htotal]
  decide +kernel

/-- A report of the standard steps has the four metrics of tests exactly if the tests turn was
reached and its command answered in time, those of coverage exactly if that holds of the coverage
turn and a summary was found, and the pass rate exactly if the run did not fail, when tests have
run. The numbers of tests add up, up to the largest count; the exact pass rate is a percentage. -/
theorem run_metric_groups (settings : Settings) (r : Runner σ) (metadata : Metadata)
    (m : Machine σ) :
    let report := ((ofSettings settings r).run metadata m).report
    let turns := observed settings r m
    (∀ name, name ∈ report.metrics.keys ↔
      (name ∈ Metric.testNames ∧
        ∃ t ∈ turns, t.handler.kind = .tests ∧ ∀ c ∈ t.calls, c.fault? = none) ∨
      (name ∈ Metric.coverageNames ∧
        ∃ t ∈ turns, t.handler.kind = .coverage ∧ (∀ c ∈ t.calls, c.fault? = none) ∧
          ∃ text document members,
            t.after.files.readText (settings.resolve ⟨settings.coverageSummary⟩) = .ok text ∧
            Json.parseKept? text = some document ∧
            document.member? "total" = some (.object members)) ∨
      (name = "tests.pass_rate" ∧ report.status ≠ .failed)) ∧
    (report.status ≠ .failed →
      ∃ t ∈ turns, t.handler.kind = .tests ∧ ∀ c ∈ t.calls, c.fault? = none) ∧
    ∀ t ∈ turns, t.handler.kind = .tests → (∀ c ∈ t.calls, c.fault? = none) →
      ∃ c o, t.calls = [c] ∧ c.command = settings.commands.test ∧ c.answer = .ok o ∧
      o.timedOut = false ∧
      let counts := (Scrapers.ofSettings settings).tests.scrape o.combined
      let exactRate := QualityGate.passRate (QualityGate.exactCounts counts)
      report.metrics.get? "tests.passed" = some counts.passed.toFloat ∧
      report.metrics.get? "tests.failed" = some counts.failed.toFloat ∧
      report.metrics.get? "tests.skipped" = some counts.skipped.toFloat ∧
      report.metrics.get? "tests.total" = some counts.total.toFloat ∧
      counts.total.toNat =
        min (counts.passed.toNat + counts.failed.toNat + counts.skipped.toNat) (2 ^ 64 - 1) ∧
      counts.passed ≤ counts.total ∧
      0 ≤ exactRate ∧ exactRate ≤ 100 ∧ (counts.total = 0 → exactRate = 0) ∧
      (report.status ≠ .failed →
        report.metrics.get? "tests.pass_rate" = some (QualityGate.passRate report.metrics) ∧
        (counts.total = 0 → report.metrics.get? "tests.pass_rate" = some 0)) := by
  intro report turns
  have hreport : report = ((ofSettings settings r.watched).run metadata m.watched).report :=
    report_watched settings r metadata m
  refine ⟨?_, ?_, ?_⟩
  · intro name
    simp only [← Settings.coverageFound_isSome]
    rw [← or_assoc, ← names_observed, hreport]
    exact mem_report_metrics
  · rw [hreport]
    exact exists_tests_of_not_failed
  · intro t ht hkind hclear
    obtain ⟨c, o, hcalls, hcommand, ho, htime, hmetrics⟩ :=
      (kept_observed settings r m t ht).metrics_tests hkind hclear
    refine ⟨c, o, hcalls, hcommand, ho, htime, ?_⟩
    intro counts exactRate
    have hget {name : String} {value : Float} (hmem : (name, value) ∈ Step.testMetrics counts) :
        report.metrics.get? name = some value := get?_report_tests metadata ht hkind hmetrics hmem
    obtain ⟨htotal, hle⟩ := Scrapers.toNat_total_scrape settings o.combined
    obtain ⟨hlow, hhigh, hnone⟩ := QualityGate.passRate_exact hle
    have hpassed : report.metrics.get? Metric.testsPassed = some counts.passed.toFloat :=
      hget (by simp [Step.testMetrics])
    have hall : report.metrics.get? Metric.testsTotal = some counts.total.toFloat :=
      hget (by simp [Step.testMetrics])
    refine ⟨hpassed, hget (by simp [Step.testMetrics, Metric.testsFailed]),
      hget (by simp [Step.testMetrics, Metric.testsSkipped]), hall, htotal, hle, hlow, hhigh, hnone,
      ?_⟩
    intro hstatus
    have hrate : report.metrics.get? "tests.pass_rate" =
        some (QualityGate.passRate report.metrics) := by
      rw [hreport] at hstatus ⊢
      exact report_passRate hstatus
    refine ⟨hrate, ?_⟩
    intro hzero
    have hpassedZero : counts.passed = 0 := by
      rw [hzero] at hle
      exact UInt64.le_zero_iff.1 hle
    rw [hpassedZero] at hpassed
    rw [hzero] at hall
    rw [hrate, passRate_of_no_tests hpassed hall]

end Pipeline
end BuildPipeline
