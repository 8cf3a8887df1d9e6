import BuildPipeline.Proofs.RunReport
import BuildPipeline.Proofs.RunnerMap

/-! Runs under two policy tables of which the second one tolerates more. Handlers that look neither
at the table nor at the clock do the same in both, so the second run repeats the first one up to the
step that failed, and may go on from there. -/
namespace BuildPipeline
variable {σ : Type}

/-- The second table differs from the first one only where it tolerates. -/
def PolicyTable.Relaxes (strict lenient : PolicyTable) : Prop :=
  ∀ kind, lenient.policy kind = strict.policy kind ∨ lenient.policy kind = .tolerant

def Settings.withPolicies (s : Settings) (table : PolicyTable) : Settings :=
  { s with policies := table }

def StepContext.withPolicies (ctx : StepContext σ) (table : PolicyTable) : StepContext σ :=
  { ctx with settings := ctx.settings.withPolicies table }

def Pipeline.withPolicies (p : Pipeline σ) (table : PolicyTable) : Pipeline σ :=
  { p with settings := p.settings.withPolicies table }

/-- The same files and the same state of the runner, at times that may differ. -/
structure Machine.Alike (m m' : Machine σ) : Prop where
  files : m'.files = m.files
  runner : m'.runner = m.runner

/-- What the handler does depends on files and runner, but not on the policy table or the time. -/
def Handler.Indifferent (ctx : StepContext σ) (table : PolicyTable) (h : Handler σ) : Prop :=
  ∀ m m' : Machine σ, m.Alike m' →
    (h.execute (ctx.withPolicies table) m').1 = (h.execute ctx m).1 ∧
    (h.execute ctx m).2.Alike (h.execute (ctx.withPolicies table) m').2

/-! ### Standard handlers -/

theorem Step.coverage_withPolicies (ctx : StepContext σ) (table : PolicyTable) :
    coverage (ctx.withPolicies table) = coverage ctx := by
  have hcommand : coverageCommand (ctx.withPolicies table) = coverageCommand ctx := by
    unfold coverageCommand
    rfl
  unfold coverage
  rw [hcommand]
  rfl

theorem Handler.execute_withPolicies (ctx : StepContext σ) (table : PolicyTable)
    (kind : StepKind) : (standard kind).execute (ctx.withPolicies table) =
      (standard kind).execute ctx := by
  cases kind with
  | coverage => simp only [standard, ofAction, Step.coverage_withPolicies]
  | environment | install | audit | lint | tests | artifacts => rfl

theorem Handler.standard_indifferent (ctx : StepContext σ) (table : PolicyTable)
    (kind : StepKind) : (standard kind).Indifferent ctx table := by
  intro m m' h
  have hview : m' = m.view id fun _ => m'.clock := by
    obtain ⟨files, runner, clock⟩ := m'
    obtain ⟨rfl, rfl⟩ := h
    rfl
  have hsame : Runner.Lifts id ctx.runner ctx.runner := fun _ _ _ _ => rfl
  have hexecute : (standard kind).execute ctx (m.view id fun _ => m'.clock) = _ :=
    standard_mirrors hsame kind m
  rw [execute_withPolicies, hview, hexecute]
  exact ⟨rfl, rfl, rfl⟩

/-! ### Verdicts and turns -/

/-- A tolerant policy changes a verdict only where a fatal one fails the step. -/
theorem classify_tolerant (policy : FailurePolicy) (least : Count)
    (result : Except Failure StepRun) :
    classify .tolerant least result = classify policy least result ∨
      ∃ reason, classify policy least result = .failed reason := by
  cases policy with
  | tolerant => exact .inl rfl
  | fatal =>
    cases result with
    | error f => exact .inl rfl
    | ok run =>
      cases hrun : run.succeeded with
      | true => exact .inl (by simp [classify, hrun])
      | false =>
        right
        cases hcounts : run.detail.testCounts? with
        | none => simp [classify, hrun, hcounts]
        | some counts =>
          simp only [classify, hrun, hcounts, Bool.false_eq_true, if_false]
          split
          · exact ⟨_, rfl⟩
          · exact ⟨_, rfl⟩

namespace Turn

/-- Turns of one handler with the same outcome. -/
structure Alike (t t' : Turn σ) : Prop where
  handler : t'.handler = t.handler
  outcome : t'.outcome = t.outcome

/-- Turns that the same is said of under two policy tables. -/
structure Agrees (s : Settings) (table : PolicyTable) (t t' : Turn σ) : Prop extends
    Alike t t' where
  verdict : t'.verdict (s.withPolicies table) = t.verdict s

variable {s : Settings} {table : PolicyTable} {t t' : Turn σ}

theorem Alike.result (h : Alike t t') : t'.result = t.result := by
  rw [Turn.result, Turn.result, h.handler, h.outcome]

theorem Alike.metrics (h : Alike t t') : t'.metrics = t.metrics := by
  rw [Turn.metrics, Turn.metrics, h.result]

/-- If a turn did not fail under the first table, the second one makes no difference. -/
theorem Alike.agrees (h : Alike t t') (hr : s.policies.Relaxes table)
    (ht : t.failed s = false) : Agrees s table t t' where
  toAlike := h
  verdict := by
    have hverdict (policy : FailurePolicy)
        (hp : policy = s.policies.policy t.handler.kind ∨ policy = .tolerant) :
        classify policy s.minRecognizedTests t.result = t.verdict s := by
      rcases hp with rfl | rfl
      · rfl
      · rcases classify_tolerant (s.policies.policy t.handler.kind) s.minRecognizedTests
          t.result with heq | hfailed
        · exact heq
        · rw [failed_iff.2 hfailed] at ht
          cases ht
    rw [Turn.verdict, h.handler, h.result]
    exact hverdict _ (hr t.handler.kind)

theorem Agrees.failed (h : Agrees s table t t') :
    t'.failed (s.withPolicies table) = t.failed s := by
  rw [Turn.failed, Turn.failed, h.verdict]

end Turn

/-- What a result says apart from times. -/
def StepResult.content (s : StepResult) : String × StepStatus × StepDetail × Option String :=
  (s.name, s.status, s.detail, s.errorMessage)

theorem Turn.Agrees.content {s : Settings} {table : PolicyTable} {t t' : Turn σ}
    (h : Agrees s table t t') :
    (t'.step (s.withPolicies table)).content = (t.step s).content := by
  simp only [StepResult.content, Turn.step, h.verdict, h.result, h.handler]

theorem PipelineStatus.aggregate_congr {steps steps' : List StepResult}
    (h : steps'.map (·.status) = steps.map (·.status)) (violations : Nat) :
    aggregate steps' violations = aggregate steps violations := by
  have hany (f : StepStatus → Bool) :
      steps'.any (fun s => f s.status) = steps.any (fun s => f s.status) := by
    have hmap := congrArg (·.any f) h
    simpa [List.any_map, Function.comp_def] using hmap
  unfold aggregate
  rw [hany fun status => status = .failed, hany fun status => status ≠ .success]

/-! ### Runs -/

namespace Pipeline
variable {p : Pipeline σ} {table : PolicyTable}

/-- Indifferent handlers have alike turns on alike machines. -/
theorem turns_alike {hs : List (Handler σ)} (hsteps : ∀ h ∈ hs, h.Indifferent p.context table)
    {m m' : Machine σ} (hm : m.Alike m') :
    List.Forall₂ Turn.Alike (p.turns hs m) ((p.withPolicies table).turns hs m') := by
  induction hs generalizing m m' with
  | nil => exact .nil
  | cons h rest ih =>
    have hopened : (opened m).Alike (opened m') := ⟨hm.files, hm.runner⟩
    obtain ⟨houtcome, hleft⟩ := hsteps h List.mem_cons_self _ _ hopened
    have hafter : (p.turn h m).after.Alike ((p.withPolicies table).turn h m').after :=
      ⟨hleft.files, hleft.runner⟩
    refine .cons ⟨rfl, houtcome⟩ (ih ?_ hafter)
    intro g hg
    exact hsteps g (List.mem_cons_of_mem h hg)

/-- Turns of the relaxed run agree up to the first failure of the strict one, and may go on. -/
theorem upToFailure_relaxed {s : Settings} (hr : s.policies.Relaxes table)
    {ts ts' : List (Turn σ)} (h : List.Forall₂ Turn.Alike ts ts') :
    (List.Forall₂ (Turn.Agrees s table) (Turn.upToFailure s ts)
        (Turn.upToFailure (s.withPolicies table) ts') ∧
      ∀ t ∈ Turn.upToFailure s ts, t.failed s = false) ∨
    ∃ before t before' t' rest', Turn.upToFailure s ts = before ++ [t] ∧
      Turn.upToFailure (s.withPolicies table) ts' = before' ++ t' :: rest' ∧
      List.Forall₂ (Turn.Agrees s table) before before' ∧ t.Alike t' ∧
      (∀ u ∈ before, u.failed s = false) ∧ t.failed s = true := by
  induction h with
  | nil => exact .inl ⟨.nil, by simp [Turn.upToFailure]⟩
  | @cons t t' rest rest' ht _ ih =>
    cases hfailed : t.failed s with
    | true =>
      exact .inr ⟨[], t, [], t', _, by simp [Turn.upToFailure, hfailed], rfl, .nil, ht, by simp,
        hfailed⟩
    | false =>
      have hagrees := ht.agrees hr hfailed
      have hfailed' : t'.failed (s.withPolicies table) = false := by rw [hagrees.failed, hfailed]
      have hup : Turn.upToFailure s (t :: rest) = t :: Turn.upToFailure s rest := by
        simp [Turn.upToFailure, hfailed]
      have hup' : Turn.upToFailure (s.withPolicies table) (t' :: rest') =
          t' :: Turn.upToFailure (s.withPolicies table) rest' := by
        simp [Turn.upToFailure, hfailed']
      rw [hup, hup']
      rcases ih with ⟨hall, hnone⟩ | ⟨before, u, before', u', more', heq, heq', hall, hu, hnone, hf⟩
      · refine .inl ⟨.cons hagrees hall, ?_⟩
        simpa [hfailed] using hnone
      · refine .inr ⟨t :: before, u, t' :: before', u', more', by simp [heq], by simp [heq'],
          .cons hagrees hall, hu, ?_, hf⟩
        simpa [hfailed] using hnone

section Reports
variable {metadata metadata' : Metadata} {m m' : Machine σ}

theorem status_report : (p.run metadata m).report.status =
    if (p.run metadata m).report.errors = [] then
      .aggregate (p.run metadata m).report.steps
        (GateVerdict.missed (p.run metadata m).report.qualityGate).length
    else .failed := by
  rw [report_errors, report_steps, report_status, Draft.status_eq]
  simp [drafted, Draft.follow]

theorem map_eq_of_agrees {α : Type} {s : Settings} {f g : Turn σ → α}
    (hfg : ∀ t t', Turn.Agrees s table t t' → g t' = f t) {ts ts' : List (Turn σ)}
    (h : List.Forall₂ (Turn.Agrees s table) ts ts') : ts'.map g = ts.map f := by
  induction h with
  | nil => rfl
  | cons ht _ ih => rw [List.map_cons, List.map_cons, hfg _ _ ht, ih]

theorem content_steps {s : Settings} {ts ts' : List (Turn σ)}
    (h : List.Forall₂ (Turn.Agrees s table) ts ts') :
    (ts'.map (Turn.step (s.withPolicies table))).map StepResult.content =
      (ts.map (Turn.step s)).map StepResult.content := by
  rw [List.map_map, List.map_map]
  exact map_eq_of_agrees (fun _ _ ht => ht.content) h

/-- If no step of the strict run failed, the relaxed run says the same, apart from times. -/
theorem report_of_agreeing (metadata metadata' : Metadata)
    (h : List.Forall₂ (Turn.Agrees p.settings table) (p.executed m)
      ((p.withPolicies table).executed m'))
    (hnone : ∀ t ∈ p.executed m, t.failed p.settings = false) :
    let strict := (p.run metadata m).report
    let lenient := ((p.withPolicies table).run metadata' m').report
    lenient.steps.map StepResult.content = strict.steps.map StepResult.content ∧
    lenient.metrics = strict.metrics ∧ lenient.errors = strict.errors ∧
    lenient.qualityGate = strict.qualityGate ∧ lenient.status = strict.status ∧
    lenient.status ≠ .failed := by
  intro strict lenient
  have hnone' : ∀ t' ∈ (p.withPolicies table).executed m',
      t'.failed (p.withPolicies table).settings = false := by
    intro t' ht'
    have hmap : ((p.withPolicies table).executed m').map
        (Turn.failed (p.settings.withPolicies table)) =
          (p.executed m).map (Turn.failed p.settings) :=
      map_eq_of_agrees (fun _ _ ht => ht.failed) h
    have hmem := List.mem_map_of_mem (f := Turn.failed (p.settings.withPolicies table)) ht'
    rw [hmap] at hmem
    obtain ⟨t, ht, heq⟩ := List.mem_map.1 hmem
    exact heq.symm.trans (hnone t ht)
  obtain ⟨herrors, hgate, hstatus⟩ := report_of_not_failed metadata hnone
  obtain ⟨herrors', hgate', hstatus'⟩ := report_of_not_failed metadata' hnone'
  have hcontent : lenient.steps.map StepResult.content =
      strict.steps.map StepResult.content := by
    rw [report_steps, report_steps]
    exact content_steps h
  have hdrafted : ((p.withPolicies table).drafted metadata' m').metrics =
      (p.drafted metadata m).metrics := by
    rw [metrics_drafted, metrics_drafted, List.flatMap_def, List.flatMap_def,
      map_eq_of_agrees (fun _ _ ht => ht.metrics) h]
  have hgates : lenient.qualityGate = strict.qualityGate := by
    rw [hgate, hgate', hdrafted]
    rfl
  refine ⟨hcontent, ?_, herrors'.trans herrors.symm, hgates, ?_, hstatus'⟩
  · rw [report_metrics, report_metrics, hgates]
    cases strict.qualityGate with
    | none => exact hdrafted
    | some gate => simp only [Draft.settle, Draft.recordMetric, hdrafted]
  · have hstatuses := congrArg (List.map fun c => c.2.1) hcontent
    rw [List.map_map, List.map_map] at hstatuses
    rw [status_report, status_report, if_pos herrors, if_pos herrors', hgates]
    exact PipelineStatus.aggregate_congr hstatuses _

/-- If a step of the strict run failed, the relaxed run has a step of the same handler there, after
steps that say the same. -/
theorem steps_of_diverging {before before' rest' : List (Turn σ)} {t t' : Turn σ}
    (h : p.executed m = before ++ [t]) (h' : (p.withPolicies table).executed m' =
      before' ++ t' :: rest')
    (hagree : List.Forall₂ (Turn.Agrees p.settings table) before before') (ht : t.Alike t') :
    let strict := (p.run metadata m).report
    let lenient := ((p.withPolicies table).run metadata' m').report
    strict.steps.map (·.name) <+: lenient.steps.map (·.name) ∧
    strict.steps.dropLast.map StepResult.content <+: lenient.steps.map StepResult.content := by
  intro strict lenient
  let step := Turn.step (σ := σ) p.settings
  let step' := Turn.step (σ := σ) (p.settings.withPolicies table)
  have hstrict : strict.steps = before.map step ++ [step t] := by
    rw [report_steps, h, List.map_append]
    rfl
  have hlenient : lenient.steps = before'.map step' ++ step' t' :: rest'.map step' := by
    rw [report_steps, h', List.map_append]
    rfl
  have hcontent : (before'.map step').map StepResult.content =
      (before.map step).map StepResult.content := content_steps hagree
  constructor
  · have hnames : (before'.map step').map (·.name) = (before.map step).map (·.name) := by
      simpa [List.map_map, Function.comp_def, StepResult.content] using
        congrArg (List.map (·.1)) hcontent
    have hname : (step' t').name = (step t).name := congrArg Handler.name ht.handler
    refine ⟨(rest'.map step').map (·.name), ?_⟩
    rw [hstrict, hlenient, List.map_append, List.map_append, List.map_cons, List.map_cons, hnames,
      hname]
    simp
  · rw [hstrict, hlenient, List.dropLast_concat, List.map_append, hcontent]
    exact List.prefix_append _ _

/-- Relaxing the policy table never makes a run worse. The relaxed run has the steps of the strict
one, all but its last one with the same content; it says the same if the strict run did not fail,
and fails only if that did. -/
theorem run_relaxed (hr : p.settings.policies.Relaxes table)
    (hsteps : ∀ h ∈ p.steps, h.Indifferent p.context table) (hm : m.Alike m')
    (metadata metadata' : Metadata) :
    let strict := (p.run metadata m).report
    let lenient := ((p.withPolicies table).run metadata' m').report
    strict.steps.map (·.name) <+: lenient.steps.map (·.name) ∧
    strict.steps.dropLast.map StepResult.content <+: lenient.steps.map StepResult.content ∧
    (strict.status ≠ .failed →
      lenient.steps.map StepResult.content = strict.steps.map StepResult.content ∧
      lenient.metrics = strict.metrics ∧ lenient.errors = strict.errors ∧
      lenient.qualityGate = strict.qualityGate ∧ lenient.status = strict.status) ∧
    (lenient.status = .failed → strict.status = .failed) := by
  intro strict lenient
  have hopened : (opened m).Alike (opened m') := ⟨hm.files, hm.runner⟩
  rcases upToFailure_relaxed hr (turns_alike hsteps hopened) with
    ⟨hagree, hnone⟩ | ⟨before, t, before', t', rest', h, h', hagree, ht, hnone, hfailed⟩
  · obtain ⟨hcontent, hmetrics, herrors, hgate, hstatus, hne⟩ :=
      report_of_agreeing metadata metadata' hagree hnone
    refine ⟨?_, ?_, fun _ => ⟨hcontent, hmetrics, herrors, hgate, hstatus⟩,
      fun hf => absurd hf hne⟩
    · have hnames := congrArg (List.map (·.1)) hcontent
      rw [List.map_map, List.map_map] at hnames
      exact ⟨[], by rw [List.append_nil]; exact hnames.symm⟩
    · rw [hcontent]
      exact (List.dropLast_prefix strict.steps).map StepResult.content
  · have hstrict : p.executed m = before ++ [t] := h
    have hlenient : (p.withPolicies table).executed m' = before' ++ t' :: rest' := h'
    obtain ⟨reason, hv⟩ := Turn.failed_iff.1 hfailed
    obtain ⟨_, _, hstatus⟩ := report_of_failed metadata h hnone hv
    obtain ⟨hnames, hcontent⟩ := steps_of_diverging hstrict hlenient hagree ht
    exact ⟨hnames, hcontent, fun hne => absurd hstatus hne, fun _ => hstatus⟩

end Reports

def bareRunner : Runner Unit := fun _ _ files state => (.ok { exitCode := 127 }, files, state)

def emptyProject (moment : Timestamp) : Machine Unit := ⟨⟨.folder [], [], []⟩, (), .still moment⟩

/-- Missing tools end a run in its first step, unless that step is tolerated. -/
theorem missing_tools_tolerated :
    let strict := ((ofSettings {} bareRunner).run ⟨"project", none, none, "first"⟩
      (emptyProject .epoch)).report
    let lenient := (((ofSettings {} bareRunner).withPolicies { environment := .tolerant }).run
      ⟨"project", none, none, "second"⟩ (emptyProject ⟨1, 0, 0⟩)).report
    strict.status = .failed ∧ strict.steps.map (·.name) = ["Environment validation"] ∧
      strict.steps.map (·.name) <+: lenient.steps.map (·.name) := by
  have hrelaxes : (ofSettings {} bareRunner).settings.policies.Relaxes
      { environment := .tolerant } := by
    intro kind
    cases kind <;> decide
  have hsteps : ∀ h ∈ (ofSettings {} bareRunner).steps,
      h.Indifferent (ofSettings {} bareRunner).context { environment := .tolerant } := by
    intro h hh
    obtain ⟨kind, _, rfl⟩ := List.mem_map.1 hh
    exact Handler.standard_indifferent _ _ kind
  have hm : (emptyProject .epoch).Alike (emptyProject ⟨1, 0, 0⟩) := ⟨rfl, rfl⟩
  have hrun := run_relaxed hrelaxes hsteps hm ⟨"project", none, none, "first"⟩
    ⟨"project", none, none, "second"⟩
  refine ⟨?_, ?_, hrun.1⟩
  · rfl
  · rfl

end Pipeline
end BuildPipeline
