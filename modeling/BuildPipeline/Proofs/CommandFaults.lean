import BuildPipeline.Proofs.CallLog

/-! No step swallows a command's failure. A time limit that passed, or a command that could not be
started, is the end of the run, under any policy and whatever was answered before. -/
namespace BuildPipeline
variable {σ α : Type}

/-- Of a list whose elements but the last are not wanted, only the last can be one that is. -/
theorem eq_last_of_wanted (wanted : α → Prop) {before after init : List α} {x last : α}
    (h : before ++ x :: after = init ++ [last]) (hinit : ∀ y ∈ init, ¬ wanted y)
    (hx : wanted x) : after = [] ∧ x = last := by
  rcases List.eq_nil_or_concat after with rfl | ⟨rest, z, rfl⟩
  · exact ⟨rfl, List.singleton_inj.1 (List.append_inj' h rfl).2⟩
  · have hsnoc : (before ++ x :: rest) ++ [z] = init ++ [last] := by simpa using h
    have hfront : before ++ x :: rest = init := (List.append_inj' hsnoc rfl).1
    exact absurd hx (hinit x (by simp [← hfront]))

theorem Failure.reason_spawnFailed (command message : String) :
    (Failure.spawnFailed command message).reason =
      "Failed to start '" ++ command ++ "': " ++ message := rfl

namespace Pipeline
variable {settings : Settings} {r : Runner σ}

/-- A call that was answered with a failure is the last one, and its step the last one too. -/
theorem issued_of_fault {m : Machine σ} {before after : List (StepKind × Call)} {kind : StepKind}
    {call : Call} {fault : Failure}
    (hissued : issued settings r m = before ++ (kind, call) :: after)
    (hfault : call.fault? = some fault) :
    after = [] ∧ ∃ earlier t, observed settings r m = earlier ++ [t] ∧ t.handler.kind = kind ∧
      call.options = StepContext.options settings kind ∧ t.result = .error fault ∧
      ∀ u ∈ earlier, u.failed settings = false := by
  rcases issued_cases settings r m with hclear | ⟨earlier, t, known, last, f, hobserved, hlast,
    hknown, hcall, hf, hresult, hearlier⟩
  · have hnone := hclear (kind, call) (by rw [hissued]; simp)
    rw [hfault] at hnone
    cases hnone
  · have hwanted : ∀ c ∈ known, ¬ c.2.fault?.isSome = true := by
      intro c hc
      simp [hknown c hc]
    obtain ⟨hafter, hpair⟩ := eq_last_of_wanted (fun c => c.2.fault?.isSome = true)
      (hissued.symm.trans hlast) hwanted (by simp [hfault])
    obtain ⟨rfl, rfl⟩ := Prod.mk.inj hpair
    have ht : t ∈ observed settings r m := by simp [hobserved]
    rw [hfault] at hf
    cases hf
    exact ⟨hafter, earlier, t, hobserved, rfl,
      (kept_observed settings r m t ht).options call hcall, hresult, hearlier⟩

/-- A command's failure ends the run. Nothing is issued after it; its step is the last one, failed
and without metrics; and the only error names the step and the failure. A command that could not be
started is named as the runner names it. -/
theorem run_of_fault (settings : Settings) (r : Runner σ) (metadata : Metadata) (m : Machine σ)
    {before after : List (StepKind × Call)} {kind : StepKind} {call : Call} {fault : Failure}
    (hissued : issued settings r m = before ++ (kind, call) :: after)
    (hfault : call.fault? = some fault) :
    let report := ((ofSettings settings r).run metadata m).report
    let log := ((ofSettings settings r.watched).run metadata m.watched).machine.runner.2
    after = [] ∧ log.getLast? = some call ∧
    (∃ earlier t, observed settings r m = earlier ++ [t] ∧ t.handler.kind = kind ∧
      report.steps = earlier.map (Turn.step settings) ++ [t.step settings] ∧
      (t.step settings).name = kind.displayName ∧ (t.step settings).status = .failed ∧
      (t.step settings).detail = .message fault.message ∧ t.metrics = [] ∧
      report.metrics = SortedMap.empty.insertAll (earlier.flatMap Turn.metrics)) ∧
    report.status = .failed ∧ report.qualityGate = none ∧
    report.errors = [kind.displayName ++ " failed: " ++ fault.reason] ∧
    (∀ o, call.answer = .ok o → o.timedOut = true ∧
      report.errors = [kind.displayName ++ " failed: timeout"] ∧
      fault.message = "Command '" ++ call.command ++ "' timed out after " ++
        (settings.timeouts.limit kind).text ++ "ms") ∧
    ∀ named message, call.answer = .error (.spawnFailed named message) →
      report.errors =
        [kind.displayName ++ " failed: Failed to start '" ++ named ++ "': " ++ message] := by
  intro report log
  obtain ⟨rfl, earlier, t, hobserved, rfl, hoptions, hresult, hearlier⟩ :=
    issued_of_fault hissued hfault
  have hname := (kept_observed settings r m t (by simp [hobserved])).name
  have hv : t.verdict settings = .failed fault.reason := Turn.verdict_of_error hresult
  have hmetrics : t.metrics = [] := by rw [Turn.metrics, hresult]
  have hreport : report = ((ofSettings settings r.watched).run metadata m.watched).report :=
    report_watched settings r metadata m
  clear_value report
  obtain ⟨herrors, hgate, hstatus⟩ := report_of_failed metadata hobserved hearlier hv
  rw [← hreport] at herrors hgate hstatus
  rw [hname] at herrors
  refine ⟨rfl, ?_, ⟨earlier, t, hobserved, rfl, ?_, hname, ?_, ?_, hmetrics, ?_⟩, hstatus, hgate,
    herrors, ?_, ?_⟩
  · simp only [log, log_run, hissued]
    simp
  · rw [hreport, report_steps]
    exact (congrArg (List.map (Turn.step settings)) hobserved).trans List.map_append
  · rw [Turn.step, hv]
    rfl
  · rw [Turn.step, hresult]
  · rw [hreport, report_metrics, ← hreport, hgate, Draft.settle, metrics_drafted]
    have hflat : (observed settings r m).flatMap Turn.metrics = earlier.flatMap Turn.metrics := by
      rw [hobserved, List.flatMap_append, List.flatMap_singleton, hmetrics, List.append_nil]
    exact congrArg SortedMap.empty.insertAll hflat
  · intro o ho
    cases hout : o.timedOut with
    | false =>
      rw [Call.fault?_of_not_timedOut ho hout] at hfault
      cases hfault
    | true =>
      rw [Call.fault?_of_timedOut ho hout, hoptions] at hfault
      cases hfault
      refine ⟨rfl, ?_, rfl⟩
      rw [herrors, Failure.reason, String.append_assoc]
      rfl
  · intro named message ho
    rw [Call.fault?_of_error ho] at hfault
    cases hfault
    rw [herrors, Failure.reason_spawnFailed,
      show " failed: Failed to start '" = " failed: " ++ "Failed to start '" from rfl]
    simp only [String.append_assoc]

def hangingCheck : Runner Unit := fun command options files state =>
  if command = "npm --version" then (.ok (.timeout options.limit), files, state)
  else (.ok {}, files, state)

def emptyMachine : Machine Unit := ⟨⟨.folder [], [], []⟩, (), .still .epoch⟩

theorem hangingCheck_fails_run :
    ((ofSettings {} hangingCheck).run ⟨"project", none, none, "run"⟩ emptyMachine).report.errors =
      ["Environment validation failed: timeout"] := by
  have hissued : issued {} hangingCheck emptyMachine =
      [(.environment, ⟨"node --version", StepContext.options {} .environment, .ok {}⟩)] ++
        (.environment, ⟨"npm --version", StepContext.options {} .environment,
          .ok (.timeout (Timeouts.limit {} .environment))⟩) :: [] := by
    rfl
  have h := run_of_fault {} hangingCheck ⟨"project", none, none, "run"⟩ emptyMachine hissued rfl
  exact (h.2.2.2.2.2.2.1 _ rfl).2.1

end Pipeline
end BuildPipeline
