import BuildPipeline.Proofs.ToolChecks

/-! The seven standard steps: what each is to run, what may end it besides a command's failure, what
it demands to succeed and what it measures. -/
namespace BuildPipeline
variable {σ : Type}

def Settings.planned (s : Settings) : StepKind → List String
  | .environment => s.commands.environment
  | .install => [s.commands.install]
  | .audit => [s.commands.audit]
  | .lint => [s.commands.lint]
  | .tests => [s.commands.test]
  | .coverage =>
    if (Text.trimmed s.commands.coverage).isEmpty then [] else [s.commands.coverage]
  | .artifacts => s.commands.package.toList

/-- What may end a step besides a command's failure: only artifacts meet errors of their own. -/
def StepKind.MayStop : StepKind → Failure → Prop
  | .artifacts, f => (∃ e, f = .io e) ∨ ∃ fault, f = .config fault
  | _, _ => False

theorem StepKind.eq_artifacts_of_mayStop {kind : StepKind} {f : Failure} (h : kind.MayStop f) :
    kind = .artifacts := by
  cases kind with
  | artifacts => rfl
  | environment | install | audit | lint | tests | coverage => cases h

/-- What a step that came to its end demands of its calls, and of the files it left. -/
def Settings.Demands (s : Settings) : StepKind → List Call → FileSystem → Prop
  | .environment, calls, files =>
    (∀ c ∈ calls, c.Green) ∧ files.existsAt (s.resolve ⟨s.manifest⟩) = true
  | .tests, calls, _ =>
    (∀ c ∈ calls, c.Green) ∧ ∀ c ∈ calls, ∀ o, c.answer = .ok o →
      ((Scrapers.ofSettings s).tests.scrape o.combined).failed = 0
  | _, calls, _ => ∀ c ∈ calls, c.Green

def Settings.coverageFound (s : Settings) (files : FileSystem) : Option CoverageSummary :=
  match files.readText (s.resolve ⟨s.coverageSummary⟩) with
  | .ok text => Scrape.coverageSummary text
  | .error _ => none

/-- The metrics that a step records if it comes to its end: only tests and coverage have any. -/
def Settings.Measures (s : Settings) : StepKind → List Call → List (String × Float) →
    FileSystem → Prop
  | .tests, calls, metrics, _ => ∃ call o, calls = [call] ∧ call.answer = .ok o ∧
    metrics = Step.testMetrics ((Scrapers.ofSettings s).tests.scrape o.combined)
  | .coverage, _, metrics, files =>
    metrics = (s.coverageFound files).elim [] Step.coverageMetrics
  | _, _, metrics, _ => metrics = []

/-- A step that came to its end succeeded exactly if its demands are met, and recorded what it
measured whether it did or not. -/
structure Settings.Judges (s : Settings) (kind : StepKind) (calls : List Call) (run : StepRun)
    (files : FileSystem) : Prop where
  succeeded : run.succeeded = true ↔ s.Demands kind calls files
  measures : s.Measures kind calls run.metrics files

theorem Settings.Demands.green {s : Settings} {kind : StepKind} {calls : List Call}
    {files : FileSystem} (h : s.Demands kind calls files) : ∀ c ∈ calls, c.Green := by
  cases kind with
  | environment | tests => exact h.1
  | install | audit | lint | coverage | artifacts => exact h

theorem Call.forall_green_singleton {c : Call} {o : ProcessOutput} (h : c.answer = .ok o) :
    (∀ d ∈ [c], d.Green) ↔ exitFailure? o = none := by
  rw [exitFailure?_eq_none_iff, ← green_iff_succeeded h]
  simp

namespace Step

/-- Failing tests are a reason unless there are none. -/
theorem failing_eq_none_iff {failed : Count} :
    (if 0 < failed then some (failed.text ++ " failing tests") else none) = none ↔ failed = 0 := by
  by_cases h : failed = 0
  · simp [h]
  · simp [h, UInt64.pos_iff_ne_zero]

variable {settings : Settings} {r : Runner σ} {scrapers : Scrapers} {m : Machine (σ × List Call)}
  {other : Failure → Prop}

theorem environment_keeps :
    Action.Keeps (StepContext.options settings .environment) (settings.planned .environment) other
      (environment ⟨settings, r.watched, scrapers⟩) m (settings.Judges .environment) := by
  refine environment_answered.mono ?_
  rintro calls run files ⟨answers, hanswers, rfl⟩
  refine ⟨?_, StepRun.metrics_ofFailure⟩
  rw [Settings.Demands, hanswers.forall_green, Settings.succeeded_environmentRun]

/-- A step around one command that reports nothing but what the exit code says. -/
theorem around_keeps {kind : StepKind} {command : String}
    {report : ProcessOutput → Action (σ × List Call) StepRun}
    (h : ∀ o m, Action.Keeps (StepContext.options settings kind) [] other (report o) m
      fun calls run _ => calls = [] ∧ (run.succeeded = true ↔ exitFailure? o = none) ∧
        run.metrics = []) :
    Action.Keeps (StepContext.options settings kind) [command] other
      (StepContext.command ⟨settings, r.watched, scrapers⟩ kind command >>= report) m
      fun calls run _ => (run.succeeded = true ↔ ∀ c ∈ calls, c.Green) ∧ run.metrics = [] := by
  refine StepContext.command_keeps.bind_last ?_
  rintro _ o m₁ ⟨call, rfl, ho, _⟩
  refine (h o m₁).mono ?_
  rintro _ run _ ⟨rfl, hrun, hmetrics⟩
  exact ⟨hrun.trans (Call.forall_green_singleton ho).symm, hmetrics⟩

theorem install_keeps :
    Action.Keeps (StepContext.options settings .install) (settings.planned .install) other
      (install ⟨settings, r.watched, scrapers⟩) m (settings.Judges .install) := by
  refine (around_keeps ?_).mono fun _ _ _ h => ⟨h.1, h.2⟩
  intro o m₁
  refine Action.Keeps.look.bind_first ?_
  rintro _ manifest m₂ ⟨rfl, _⟩
  exact .pure ⟨rfl, StepRun.succeeded_ofFailure, StepRun.metrics_ofFailure⟩

theorem audit_keeps :
    Action.Keeps (StepContext.options settings .audit) (settings.planned .audit) other
      (audit ⟨settings, r.watched, scrapers⟩) m (settings.Judges .audit) := by
  refine (around_keeps ?_).mono fun _ _ _ h => ⟨h.1, h.2⟩
  exact fun _ _ => .pure ⟨rfl, StepRun.succeeded_ofFailure, StepRun.metrics_ofFailure⟩

theorem lint_keeps :
    Action.Keeps (StepContext.options settings .lint) (settings.planned .lint) other
      (lint ⟨settings, r.watched, scrapers⟩) m (settings.Judges .lint) := by
  refine (around_keeps ?_).mono fun _ _ _ h => ⟨h.1, h.2⟩
  exact fun _ _ => .pure ⟨rfl, StepRun.succeeded_ofFailure, StepRun.metrics_ofFailure⟩

theorem succeeded_testRun {counts : TestCounts} {o : ProcessOutput} :
    (testRun counts o).succeeded = true ↔ exitFailure? o = none ∧ counts.failed = 0 := by
  rw [testRun, StepRun.succeeded_withMetrics, StepRun.succeeded_ofFailure, Option.or_eq_none_iff,
    failing_eq_none_iff]

theorem tests_keeps :
    Action.Keeps (StepContext.options settings .tests) (settings.planned .tests) other
      (tests ⟨settings, r.watched, .ofSettings settings⟩) m (settings.Judges .tests) := by
  refine StepContext.command_keeps.bind_last ?_
  rintro _ o m₁ ⟨call, rfl, ho, _⟩
  refine .pure ⟨?_, call, o, rfl, ho, metrics_testRun _ o⟩
  rw [succeeded_testRun, ← Call.forall_green_singleton ho]
  simp [Settings.Demands, ho]

theorem metrics_coverage (detail : StepDetail) (failure : Option String)
    (summary : Option CoverageSummary) :
    ((StepRun.ofFailure detail failure).withMetrics (match summary with
      | some s => coverageMetrics s
      | none => [])).metrics = summary.elim [] coverageMetrics := by
  cases summary <;> simp [StepRun.withMetrics]

theorem coverage_keeps :
    Action.Keeps (StepContext.options settings .coverage) (settings.planned .coverage) other
      (coverage ⟨settings, r.watched, .ofSettings settings⟩) m (settings.Judges .coverage) := by
  have hcommand : Action.Keeps (StepContext.options settings .coverage) (settings.planned .coverage)
      other (coverageCommand ⟨settings, r.watched, .ofSettings settings⟩) m
      fun calls output _ => (output.bind exitFailure? = none ↔ ∀ c ∈ calls, c.Green) := by
    unfold coverageCommand Settings.planned
    dsimp only
    split
    · refine .pure ?_
      simp
    · refine StepContext.command_keeps.bind_last ?_
      rintro _ o m₁ ⟨call, rfl, ho, _⟩
      refine .pure ?_
      exact (Call.forall_green_singleton ho).symm
  refine hcommand.bind_last ?_
  rintro calls output m₁ houtput
  refine Action.Keeps.look.bind_first ?_
  rintro _ _ m₂ ⟨rfl, rfl, hfiles⟩
  refine .pure ⟨?_, ?_⟩
  · rw [List.append_nil, List.append_nil]
    exact StepRun.succeeded_ofFailure.trans houtput
  · rw [hfiles]
    exact metrics_coverage _ _ _

/-- Where a list of readings fails, one of them does. -/
theorem mapM_eq_error {α β : Type} {f : α → Except Failure β} {xs : List α} {e : Failure}
    (h : xs.mapM f = .error e) : ∃ x ∈ xs, f x = .error e := by
  induction xs with
  | nil => cases h
  | cons x rest ih =>
    rw [List.mapM_cons] at h
    cases hx : f x with
    | error e' =>
      rw [hx] at h
      cases h
      exact ⟨x, List.mem_cons_self, hx⟩
    | ok y =>
      cases hrest : rest.mapM f with
      | error e' =>
        rw [hx, hrest] at h
        cases h
        obtain ⟨z, hz, he⟩ := ih hrest
        exact ⟨z, List.mem_cons_of_mem x hz, he⟩
      | ok ys =>
        rw [hx, hrest] at h
        cases h

def readPattern (pattern : String) : Except Failure (List Glob.Token) :=
  match Glob.read pattern with
  | .ok tokens => .ok tokens
  | .error e => .error (.config (.badPattern pattern e))

theorem readPatterns_eq (patterns : List String) :
    readPatterns patterns = (patterns.mapM readPattern).bind fun globs =>
      match Glob.setError? globs with
      | some e => .error (.config (.badPatterns e))
      | none => .ok globs := rfl

theorem readPatterns_error {patterns : List String} {f : Failure}
    (h : readPatterns patterns = .error f) : ∃ fault, f = .config fault := by
  rw [readPatterns_eq] at h
  cases hglobs : patterns.mapM readPattern with
  | error e =>
    rw [hglobs] at h
    cases h
    obtain ⟨pattern, _, hpattern⟩ := mapM_eq_error hglobs
    unfold readPattern at hpattern
    split at hpattern <;> cases hpattern
    exact ⟨_, rfl⟩
  | ok globs =>
    rw [hglobs, Except.bind] at h
    split at h <;> cases h
    exact ⟨_, rfl⟩

theorem matchingFiles_error {globs : List (List Glob.Token)} {files : FileSystem} {f : Failure}
    (h : matchingFiles settings globs files = .error f) : ∃ e, f = .io e := by
  unfold matchingFiles at h
  split at h
  · cases h
    exact ⟨_, rfl⟩
  · cases h

theorem collectArtifacts_keeps {options : RunOptions} {target : Path} :
    Action.Keeps options [] StepKind.artifacts.MayStop (collectArtifacts settings target) m
      fun calls run _ => calls = [] ∧ run.succeeded = true ∧ run.metrics = [] := by
  have hio (e : IoError) : StepKind.artifacts.MayStop (.io e) := .inl ⟨e, rfl⟩
  refine (Action.Keeps.read fun _ _ h => .inr (readPatterns_error h)).bind_first ?_
  rintro _ globs m₁ ⟨rfl, _⟩
  refine (Action.Keeps.read fun _ _ h => .inl (matchingFiles_error h)).bind_first ?_
  rintro _ found m₂ ⟨rfl, _⟩
  refine (Action.Keeps.files hio).bind_first ?_
  rintro _ _ m₃ ⟨rfl, _⟩
  refine (Action.Keeps.files hio).bind_first ?_
  rintro _ entries m₄ ⟨rfl, _⟩
  exact .pure ⟨rfl, rfl, rfl⟩

theorem artifacts_keeps :
    Action.Keeps (StepContext.options settings .artifacts) (settings.planned .artifacts)
      StepKind.artifacts.MayStop (artifacts ⟨settings, r.watched, scrapers⟩) m
      (settings.Judges .artifacts) := by
  have hio (e : IoError) : StepKind.artifacts.MayStop (.io e) := .inl ⟨e, rfl⟩
  refine (Action.Keeps.files hio).bind_first ?_
  rintro _ _ m₁ ⟨rfl, _⟩
  unfold Settings.planned
  dsimp only
  cases settings.commands.package with
  | none =>
    refine collectArtifacts_keeps.mono ?_
    rintro _ run files ⟨rfl, hrun, hmetrics⟩
    exact ⟨by simp [Settings.Demands, hrun], hmetrics⟩
  | some command =>
    refine StepContext.command_keeps.bind_last ?_
    rintro _ o m₂ ⟨call, rfl, ho, _⟩
    have hgreen := Call.forall_green_singleton ho
    cases hexit : exitFailure? o with
    | none =>
      refine collectArtifacts_keeps.mono ?_
      rintro _ run files ⟨rfl, hrun, hmetrics⟩
      exact ⟨by simpa [Settings.Demands, hrun, hexit] using hgreen, hmetrics⟩
    | some reason =>
      refine .pure ⟨?_, rfl⟩
      simpa [Settings.Demands, hexit, StepRun.failed] using hgreen

end Step
end BuildPipeline
