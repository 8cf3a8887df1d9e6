import BuildPipeline.Proofs.RecordedMetrics
import BuildPipeline.Proofs.RunnerMap

/-! The test step under every answer of its command that came in time. Whether tests were recognized
is asked before the policy is, and what the counts say is recorded whatever the verdict. -/
namespace BuildPipeline
variable {σ : Type}

namespace Step

/-- The reason of tests that did not pass: the exit code comes first. -/
def testReason (counts : TestCounts) (o : ProcessOutput) : String :=
  if o.exitCode = 0 then counts.failed.text ++ " failing tests" else exitReason o

section Verdict
variable {policy : FailurePolicy} {least : Count} {counts : TestCounts} {o : ProcessOutput}

theorem testRun_eq (ho : o.timedOut = false) :
    testRun counts o = (StepRun.ofFailure (.tests ⟨counts, o.exitCode⟩)
      (if o.exitCode = 0 ∧ counts.failed = 0 then none else some (testReason counts o))).withMetrics
        (testMetrics counts) := by
  have hfailure : ((exitFailure? o).or
      (if 0 < counts.failed then some (counts.failed.text ++ " failing tests") else none)) =
      if o.exitCode = 0 ∧ counts.failed = 0 then none else some (testReason counts o) := by
    rw [exitFailure?_of_not_timedOut ho, testReason]
    by_cases hexit : o.exitCode = 0 <;> by_cases hfailed : counts.failed = 0 <;>
      simp [hexit, hfailed, UInt64.pos_iff_ne_zero]
  rw [← hfailure]
  rfl

/-- The verdict on tests: too few of them fail the step before the policy is asked. -/
theorem classify_testRun (ho : o.timedOut = false) :
    classify policy least (.ok (testRun counts o)) =
      if o.exitCode = 0 ∧ counts.failed = 0 then .success
      else if counts.total < least then
        .failed (Failure.unrecognizedOutput "test" counts.total least).message
      else match policy with
        | .tolerant => .partly
        | .fatal => .failed (testReason counts o) := by
  rw [testRun_eq ho]
  split
  · rfl
  · by_cases hfew : counts.total < least
    · simp [classify, StepRun.ofFailure, StepRun.failed, StepRun.withMetrics,
        StepDetail.testCounts?, hfew]
    · cases policy <;> simp [classify, StepRun.ofFailure, StepRun.failed, StepRun.withMetrics,
        StepDetail.testCounts?, hfew, StepRun.reason]

/-- Failing tests are never only a warning. -/
theorem verdict_testRun (ho : o.timedOut = false) :
    let verdict := classify policy least (.ok (testRun counts o))
    (verdict.status = .success ↔ o.exitCode = 0 ∧ counts.failed = 0) ∧
    (verdict.status ≠ .success → counts.total < least →
      verdict = .failed (Failure.unrecognizedOutput "test" counts.total least).message) ∧
    (verdict.status ≠ .success → least ≤ counts.total → verdict = match policy with
      | .tolerant => .partly
      | .fatal => .failed (testReason counts o)) ∧
    verdict.status ≠ .warning := by
  intro verdict
  have hverdict : verdict = _ := classify_testRun ho
  rw [hverdict]
  split
  · next hpassed => simpa [Verdict.status] using hpassed
  · next hfailed =>
    split
    · next hfew => simp [Verdict.status, hfailed, hfew, UInt64.not_le.2 hfew]
    · next hmany => cases policy <;> simp [Verdict.status, hfailed, hmany]

end Verdict

theorem nodup_testMetrics (counts : TestCounts) : ((testMetrics counts).map Prod.fst).Nodup := by
  change [Metric.testsPassed, Metric.testsFailed, Metric.testsSkipped, Metric.testsTotal].Nodup
  decide

variable {settings : Settings} {r : Runner σ} {scrapers : Scrapers} {m : Machine σ}
  {o : ProcessOutput}

theorem tests_answered
    (hanswer : (r settings.commands.test (StepContext.options settings .tests) m.files
      m.runner).1 = .ok o) (ho : o.timedOut = false) :
    (tests ⟨settings, r, scrapers⟩ m).1 = .ok (testRun (scrapers.tests.scrape o.combined) o) := by
  rcases hr : r settings.commands.test (StepContext.options settings .tests) m.files m.runner with
    ⟨answer, files, state⟩
  rw [hr] at hanswer
  dsimp only at hanswer
  subst hanswer
  have hcommand : StepContext.command ⟨settings, r, scrapers⟩ .tests settings.commands.test m =
      (.ok o, { m with files := files, runner := state }) := by
    simp [StepContext.command, hr, ho]
  rw [tests, Action.bind_apply, hcommand]
  rfl

end Step

theorem Handler.result_ofAction (kind : StepKind) (action : StepContext σ → Action σ StepRun)
    (ctx : StepContext σ) (m : Machine σ) (name : String) :
    ((Handler.ofAction kind action).execute ctx m).1.result name = (action ctx m).1 := by
  rcases haction : action ctx m with ⟨result, left⟩
  simp only [Handler.ofAction, haction]
  cases result <;> rfl

namespace Pipeline

theorem executeStep_of_finished {p : Pipeline σ} {h : Handler σ} {s : Progress σ} {run : StepRun}
    (index : Nat) (hresult : (p.turn h s.machine).result = .ok run) :
    let done := p.executeStep h index s
    let verdict := classify (p.settings.policies.policy h.kind) p.settings.minRecognizedTests
      (.ok run)
    done.1.status = verdict.status ∧ done.1.errorMessage = verdict.reason? ∧
      done.1.detail = run.detail ∧
      done.2.draft.metrics = s.draft.metrics.insertAll run.metrics := by
  intro done verdict
  let t := p.turn h s.machine
  have hdone : done = (t.step p.settings, ⟨t.after,
      (s.draft.recordMetrics t.metrics).pushStep (t.step p.settings),
      s.events ++ t.told p.settings index⟩) := executeStep_eq p h index s
  have hverdict : t.verdict p.settings = verdict := by
    rw [Turn.verdict, hresult]
    rfl
  rw [hdone]
  refine ⟨congrArg Verdict.status hverdict, congrArg Verdict.reason? hverdict, ?_, ?_⟩
  · simp only [Turn.step, t, hresult]
  · simp only [Turn.metrics, t, hresult]
    rfl

/-- The test step succeeds if its command does and no test failed. Too few recognized tests fail it
under either policy; enough of them make it a partial success if that is tolerated. -/
theorem tests_executed (settings : Settings) (r : Runner σ) (index : Nat) (s : Progress σ)
    (o : ProcessOutput)
    (hanswer : (r settings.commands.test (StepContext.options settings .tests) s.machine.files
      s.machine.runner).1 = .ok o) (ho : o.timedOut = false) :
    let counts : TestCounts := (match settings.testReporter with
      | .mocha => Scrape.mocha o.combined
      | .jest => Scrape.jest o.combined)
    let done := (ofSettings settings r).executeStep (.standard .tests) index s
    (done.1.status = .success ↔ o.exitCode = 0 ∧ counts.failed = 0) ∧
    (done.1.status ≠ .success → counts.total < settings.minRecognizedTests →
      done.1.status = .failed ∧ done.1.errorMessage =
        some ("No recognizable test results: found " ++ counts.total.text ++ ", need at least " ++
          settings.minRecognizedTests.text)) ∧
    (done.1.status ≠ .success → settings.minRecognizedTests ≤ counts.total →
      match settings.policies.policy .tests with
      | .tolerant => done.1.status = .partly
      | .fatal => done.1.status = .failed ∧ done.1.errorMessage = some
          (if o.exitCode = 0 then counts.failed.text ++ " failing tests" else exitReason o)) ∧
    done.1.status ≠ .warning ∧
    done.1.detail = .tests ⟨counts, o.exitCode⟩ ∧
    ∀ name, done.2.draft.metrics.get? name = ([("tests.passed", counts.passed.toFloat),
      ("tests.failed", counts.failed.toFloat), ("tests.skipped", counts.skipped.toFloat),
      ("tests.total", counts.total.toFloat)].lookup name).or (s.draft.metrics.get? name) := by
  intro counts done
  have hscrape : (Scrapers.ofSettings settings).tests.scrape o.combined = counts := by
    simp only [Scrapers.ofSettings, counts]
    cases settings.testReporter <;> rfl
  have hresult : ((ofSettings settings r).turn (.standard .tests) s.machine).result =
      .ok (Step.testRun counts o) := by
    rw [← hscrape]
    exact (Handler.result_ofAction _ _ _ _ _).trans (Step.tests_answered hanswer ho)
  let verdict := classify (settings.policies.policy .tests) settings.minRecognizedTests
    (.ok (Step.testRun counts o))
  obtain ⟨hstatus, herror, hdetail, hmetrics⟩ :
      done.1.status = verdict.status ∧ done.1.errorMessage = verdict.reason? ∧ _ :=
    executeStep_of_finished index hresult
  obtain ⟨hsuccess, hfew, hpolicy, hwarning⟩ :
      (verdict.status = .success ↔ o.exitCode = 0 ∧ counts.failed = 0) ∧ _ :=
    Step.verdict_testRun ho
  rw [hstatus, herror]
  refine ⟨hsuccess, ?_, ?_, hwarning, ?_, ?_⟩
  · intro hne hlt
    have hgiven : verdict = _ := hfew hne hlt
    rw [hgiven]
    exact ⟨rfl, rfl⟩
  · intro hne hle
    have hgiven : verdict = _ := hpolicy hne hle
    rw [hgiven]
    cases settings.policies.policy .tests with
    | tolerant => rfl
    | fatal => exact ⟨rfl, rfl⟩
  · rw [hdetail, Step.detail_testRun]
  · intro name
    rw [hmetrics, SortedMap.get?_insertAll, Step.metrics_testRun,
      SortedMap.lookup_reverse (Step.nodup_testMetrics counts)]
    rfl

def failingTests : Runner Unit := fun _ _ files state =>
  (.ok { exitCode := 1, stdout := "  8 passing (3s)\n  2 failing\n" }, files, state)

theorem failingTests_tolerated :
    let p := ofSettings {} failingTests
    let done := p.executeStep (.standard .tests) 4
      (p.begin ⟨"project", none, none, "run"⟩ ⟨⟨.folder [], [], []⟩, (), .still .epoch⟩)
    done.1.status = .partly ∧
      done.2.draft.metrics.get? "tests.total" = some (10 : Count).toFloat := by
  intro p done
  obtain ⟨hsuccess, _, hpolicy, _, _, hmetrics⟩ := tests_executed {} failingTests 4
    (p.begin ⟨"project", none, none, "run"⟩ ⟨⟨.folder [], [], []⟩, (), .still .epoch⟩)
    { exitCode := 1, stdout := "  8 passing (3s)\n  2 failing\n" } rfl rfl
  have hcounts : Scrape.mocha "  8 passing (3s)\n  2 failing\n" = ⟨8, 2, 0, 10⟩ := by
    decide +kernel
  have hexit : ¬(1 : Int32) = 0 := by decide
  refine ⟨hpolicy (fun h => hexit (hsuccess.1 h).1) ?_, ?_⟩
  · change _ ≤ (Scrape.mocha "  8 passing (3s)\n  2 failing\n").total
    rw [hcounts]
    decide
  · have htotal := hmetrics "tests.total"
    change _ = some (Scrape.mocha "  8 passing (3s)\n  2 failing\n").total.toFloat at htotal
    rwa [hcounts] at htotal

end Pipeline
end BuildPipeline
