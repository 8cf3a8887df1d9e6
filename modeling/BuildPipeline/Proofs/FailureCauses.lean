import BuildPipeline.Proofs.CommandFaults
import BuildPipeline.Proofs.GreenRun

/-! Why runs fail. Trouble in a step's surroundings and test output that cannot be read fail a step
under any policy, and so do the artifacts step's own errors. Under a fatal policy a step must also
succeed. -/
namespace BuildPipeline
variable {σ : Type}

/-- A step ran tests, and too few of them were found in the output. -/
def StepRun.Unread (least : Count) (run : StepRun) : Prop :=
  ∃ counts, run.detail.testCounts? = some counts ∧ counts.total < least

theorem classify_failed_iff {policy : FailurePolicy} {least : Count}
    {result : Except Failure StepRun} :
    (∃ reason, classify policy least result = .failed reason) ↔
      (∃ f, result = .error f) ∨
      ∃ run, result = .ok run ∧ run.succeeded = false ∧ (run.Unread least ∨ policy = .fatal) := by
  cases result with
  | error f => simp [classify]
  | ok run =>
    cases hrun : run.succeeded with
    | true => simp [classify, hrun]
    | false =>
      cases hcounts : run.detail.testCounts? with
      | none => cases policy <;> simp [classify, hrun, hcounts, StepRun.Unread]
      | some counts =>
        by_cases hfew : counts.total < least
        · simp [classify, hrun, hcounts, StepRun.Unread, hfew]
        · cases policy <;> simp [classify, hrun, hcounts, StepRun.Unread, hfew]

namespace Turn

theorem not_failed_of_tolerated {s : Settings} {t : Turn σ} {run : StepRun}
    (hpolicy : s.policies.policy t.handler.kind = .tolerant) (hresult : t.result = .ok run)
    (hcounts : run.detail.testCounts? = none) : t.failed s = false := by
  rw [← Bool.not_eq_true, failed_iff, verdict, classify_failed_iff, hresult, hpolicy]
  simp [StepRun.Unread, hcounts]

/-- What fails a standard step's turn under any policy. -/
inductive Broken (s : Settings) (t : Turn (σ × List Call)) : Prop
  /-- Something failed that is not the project's own. -/
  | system {f : Failure} (result : t.result = .error f) (system : f.isSystem = true)
  /-- The tests did not pass, and too few of them were found. -/
  | unread {run : StepRun} (result : t.result = .ok run) (unsuccessful : run.succeeded = false)
      (unread : run.Unread s.minRecognizedTests)
  /-- The runner answered a command with a failure of any kind. -/
  | answer {call : Call} {f : Failure} (issued : call ∈ t.calls) (answer : call.answer = .error f)
      (result : t.result = .error f)
  /-- The artifacts step met an error of files, or a pattern that is none. -/
  | artifacts {f : Failure} (kind : t.handler.kind = .artifacts) (result : t.result = .error f)
      (own : StepKind.artifacts.MayStop f)

theorem Broken.failed {s : Settings} {t : Turn (σ × List Call)} (h : t.Broken s) :
    t.failed s = true := by
  refine failed_iff.2 (classify_failed_iff.2 ?_)
  cases h with
  | system result | answer _ _ result | artifacts _ result => exact .inl ⟨_, result⟩
  | unread result unsuccessful unread => exact .inr ⟨_, result, unsuccessful, .inl unread⟩

theorem Kept.broken_of_error {s : Settings} {t : Turn (σ × List Call)} {f : Failure} (h : t.Kept s)
    (hresult : t.result = .error f) : t.Broken s := by
  have hcourse := h.course
  rw [hresult] at hcourse
  obtain ⟨call, hcall, hfault⟩ | hstop := hcourse.of_error
  · cases hanswer : call.answer with
    | error e =>
      rw [Call.fault?_of_error hanswer] at hfault
      cases hfault
      exact .answer hcall hanswer hresult
    | ok o =>
      cases ho : o.timedOut with
      | true =>
        rw [Call.fault?_of_timedOut hanswer ho] at hfault
        cases hfault
        exact .system hresult rfl
      | false =>
        rw [Call.fault?_of_not_timedOut hanswer ho] at hfault
        cases hfault
  · have hkind := StepKind.eq_artifacts_of_mayStop hstop
    rw [hkind] at hstop
    exact .artifacts hkind hresult hstop

/-- Under a tolerant policy only a broken turn fails. -/
theorem Kept.failed_iff {s : Settings} {t : Turn (σ × List Call)} (h : t.Kept s) :
    t.failed s = true ↔ t.Broken s ∨
      s.policies.policy t.handler.kind = .fatal ∧
        ∃ run, t.result = .ok run ∧ run.succeeded = false := by
  constructor
  · intro hfailed
    obtain ⟨f, hresult⟩ | ⟨run, hresult, hrun, hunread | hfatal⟩ :=
      classify_failed_iff.1 (Turn.failed_iff.1 hfailed)
    · exact .inl (h.broken_of_error hresult)
    · exact .inl (.unread hresult hrun hunread)
    · exact .inr ⟨hfatal, run, hresult, hrun⟩
  · rintro (hbroken | ⟨hfatal, run, hresult, hrun⟩)
    · exact hbroken.failed
    · exact Turn.failed_iff.2 (classify_failed_iff.2 (.inr ⟨run, hresult, hrun, .inr hfatal⟩))

end Turn

namespace Pipeline

/-- A run fails exactly if its last turn is broken, or did not succeed under a fatal policy. Other
trouble lets it go on to the end, but keeps it from being a success. -/
theorem run_failed_iff (settings : Settings) (r : Runner σ) (metadata : Metadata) (m : Machine σ) :
    let report := ((ofSettings settings r).run metadata m).report
    (report.status = .failed ↔ ∃ earlier t, observed settings r m = earlier ++ [t] ∧
      (∀ u ∈ earlier, u.failed settings = false) ∧
      (t.Broken settings ∨ settings.policies.policy t.handler.kind = .fatal ∧
        ∃ run, t.result = .ok run ∧ run.succeeded = false)) ∧
    ∀ t ∈ observed settings r m, t.verdict settings ≠ .success → report.status ≠ .success := by
  intro report
  have hkept := kept_observed settings r m
  have hreport : report = ((ofSettings settings r.watched).run metadata m.watched).report :=
    report_watched settings r metadata m
  rw [hreport]
  refine ⟨?_, fun t ht hne hsuccess => hne ((report_status_eq_success_iff.1 hsuccess).1 t ht)⟩
  constructor
  · intro hfailed
    obtain ⟨_, hall⟩ | ⟨earlier, t, reason, hobs, hearlier, hv⟩ := observed_cases settings r m
    · exact absurd hfailed (report_of_not_failed metadata hall).2.2
    · have ht := (hkept t (by simp [hobs])).failed_iff.1 (Turn.failed_iff.2 ⟨reason, hv⟩)
      exact ⟨earlier, t, hobs, hearlier, ht⟩
  · rintro ⟨earlier, t, hobs, hearlier, hcause⟩
    obtain ⟨reason, hv⟩ := Turn.failed_iff.1 ((hkept t (by simp [hobs])).failed_iff.2 hcause)
    exact (report_of_failed metadata hobs hearlier hv).2.2

/-! ### A tolerated step that fails -/

theorem exists_of_mem_turns {p : Pipeline σ} {hs : List (Handler σ)} {m : Machine σ} {t : Turn σ}
    (h : t ∈ p.turns hs m) : ∃ g ∈ hs, ∃ m', t = p.turn g m' := by
  induction hs generalizing m with
  | nil => simp [turns] at h
  | cons g rest ih =>
    obtain rfl | h := List.mem_cons.1 h
    · exact ⟨g, List.mem_cons_self, m, rfl⟩
    · obtain ⟨g', hg', m', rfl⟩ := ih h
      exact ⟨g', List.mem_cons_of_mem g hg', m', rfl⟩

/-- Without a package command the artifacts step gets to its patterns, unless the artifacts folder
cannot be made. If they are rejected, making that folder is all it did. -/
theorem artifacts_of_rejected {p : Pipeline σ} {fault : ConfigFault}
    (hpackage : p.settings.commands.package = none)
    (hpatterns : Step.readPatterns p.settings.artifacts.patterns = .error (.config fault))
    (m : Machine σ) : ∃ f, (p.turn (.standard .artifacts) m).outcome = .error f ∧
      ((∃ e, f = .io e) ∨ f = .config fault) ∧
      (p.turn (.standard .artifacts) m).after.files =
        (m.files.makeFolderPath (p.settings.resolve ⟨p.settings.artifacts.directory⟩)).2 := by
  have haction : ∃ f left, Step.artifacts p.context (opened m) = (.error f, left) ∧
      ((∃ e, f = .io e) ∨ f = .config fault) ∧ left.files =
        (m.files.makeFolderPath (p.settings.resolve ⟨p.settings.artifacts.directory⟩)).2 := by
    rcases hmake : (opened m).files.makeFolderPath
      (p.context.path p.context.settings.artifacts.directory) with ⟨_ | _, fs⟩ <;>
      have hfiles := (congrArg Prod.snd hmake).symm <;>
      rw [Step.artifacts, Action.bind_apply] <;> simp only [Action.files, hmake]
    · exact ⟨_, _, rfl, .inl ⟨_, rfl⟩, hfiles⟩
    · have hread : Action.read (fun _ => Step.readPatterns p.settings.artifacts.patterns)
          { opened m with files := fs } =
            (.error (.config fault), { opened m with files := fs }) := by
        rw [← hpatterns]
        rfl
      simp only [context, hpackage, Step.collectArtifacts]
      rw [Action.bind_apply, hread]
      exact ⟨_, _, rfl, .inr rfl, hfiles⟩
  obtain ⟨f, left, hrun, hf, hfiles⟩ := haction
  have hexecute : (Handler.standard .artifacts).execute p.context (opened m) =
      (.error f, left) := by
    simp only [Handler.standard, Handler.ofAction, hrun]
  rw [turn_of_execute hexecute]
  exact ⟨f, rfl, hf, hfiles⟩

/-- A pattern that is none fails every run without a package command, whatever the policies. -/
theorem report_failed_of_rejected {settings : Settings} {fault : ConfigFault}
    (hpackage : settings.commands.package = none)
    (hpatterns : Step.readPatterns settings.artifacts.patterns = .error (.config fault))
    (r : Runner σ) (metadata : Metadata) (m : Machine σ) :
    ((ofSettings settings r).run metadata m).report.status = .failed := by
  obtain ⟨hexec, hall⟩ | ⟨earlier, t, _, hexec, hearlier, hv⟩ :=
    executed_cases (ofSettings settings r) m
  · -- the artifacts step had its turn
    have hmem : Handler.standard .artifacts ∈
        ((ofSettings settings r).turns Handler.standardSteps (opened m)).map (·.handler) := by
      rw [handlers_turns]
      exact List.mem_map_of_mem (by decide)
    obtain ⟨t, ht, hhandler⟩ := List.mem_map.1 hmem
    obtain ⟨g, _, m', rfl⟩ := exists_of_mem_turns ht
    obtain rfl : g = .standard .artifacts := hhandler
    obtain ⟨f, houtcome, -, -⟩ :=
      @artifacts_of_rejected _ (ofSettings settings r) _ hpackage hpatterns m'
    have hresult : ((ofSettings settings r).turn (.standard .artifacts) m').result = .error f := by
      rw [Turn.result, houtcome]
      rfl
    have hnot := hall _ (hexec ▸ ht)
    rw [Turn.failed_iff.2 ⟨_, Turn.verdict_of_error hresult⟩] at hnot
    cases hnot
  · exact (report_of_failed metadata hexec hearlier hv).2.2

/-- A runner under which every command succeeds and says nothing. -/
def silentRunner : Runner Unit := fun _ _ files state => (.ok {}, files, state)

/-- Every step is tolerated, and artifacts are looked for by a pattern that is none. -/
def openBracket : Settings where
  policies := { environment := .tolerant, install := .tolerant, artifacts := .tolerant }
  artifacts := { patterns := ["["] }

theorem openBracket_rejected : Step.readPatterns openBracket.artifacts.patterns =
    .error (.config (.badPattern "[" .unclosedClass)) := rfl

theorem silent_not_failed {kind : StepKind} (h : kind ≠ .artifacts) (m : Machine Unit) :
    ((ofSettings openBracket silentRunner).turn (.standard kind) m).failed openBracket = false := by
  cases kind with
  | environment =>
    exact Turn.not_failed_of_tolerated rfl rfl (by rw [StepRun.detail_ofFailure]; rfl)
  | install | audit | lint | coverage => exact Turn.not_failed_of_success rfl
  | tests =>
    have hempty : ((ofSettings openBracket silentRunner).turn (.standard .tests)
        emptyMachine).verdict openBracket = .success := by decide +kernel
    exact Turn.not_failed_of_success hempty
  | artifacts => exact absurd rfl h

/-- The error that ended the run is not one of the surroundings, and every step was tolerated. -/
theorem tolerated_artifacts_fail_run :
    (∀ kind, openBracket.policies.policy kind = .tolerant) ∧
    ((ofSettings openBracket silentRunner).run ⟨"project", none, none, "run"⟩
      emptyMachine).report.status = .failed ∧
    ∃ earlier t f, (ofSettings openBracket silentRunner).executed emptyMachine = earlier ++ [t] ∧
      t.outcome = .error f ∧ f.isSystem = false := by
  let p := ofSettings openBracket silentRunner
  have hstatus := report_failed_of_rejected rfl openBracket_rejected silentRunner
    ⟨"project", none, none, "run"⟩ emptyMachine
  refine ⟨fun kind => by cases kind <;> rfl, hstatus, ?_⟩
  obtain ⟨_, hall⟩ | ⟨earlier, t, _, hexec, _, hv⟩ := executed_cases p emptyMachine
  · exact absurd hstatus (report_of_not_failed _ hall).2.2
  have ht : t ∈ p.executed emptyMachine := by simp [hexec]
  obtain ⟨g, hg, m', rfl⟩ := exists_of_mem_turns ((Turn.upToFailure_prefix _ _).subset ht)
  obtain ⟨kind, _, rfl⟩ := List.mem_map.1 hg
  by_cases hkind : kind = .artifacts
  · subst hkind
    obtain ⟨f, houtcome, hf, -⟩ := artifacts_of_rejected (p := p) rfl openBracket_rejected m'
    refine ⟨earlier, _, f, hexec, houtcome, ?_⟩
    obtain ⟨e, rfl⟩ | rfl := hf <;> rfl
  · have hnot : (p.turn (.standard kind) m').failed p.settings = false :=
      silent_not_failed hkind m'
    rw [Turn.failed_iff.2 ⟨_, hv⟩] at hnot
    cases hnot

end Pipeline
end BuildPipeline
