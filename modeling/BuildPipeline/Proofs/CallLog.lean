import BuildPipeline.Proofs.StandardSteps

/-! The calls of a whole run. Each step keeps to its own plan; the run goes on to the next step only
if no call was answered with a failure. -/
namespace BuildPipeline
variable {σ : Type}

namespace Turn

theorem result_eq_ok_iff {t : Turn σ} {run : StepRun} :
    t.result = .ok run ↔ t.outcome = .finished run := by
  cases h : t.outcome <;> simp [result, StepOutcome.result, h]

/-- What holds of a standard step's turn under a watched runner. -/
structure Kept (s : Settings) (t : Turn (σ × List Call)) : Prop where
  name : t.handler.name = t.handler.kind.displayName
  log : t.after.runner.2 = t.before.runner.2 ++ t.calls
  options : ∀ c ∈ t.calls, c.options = StepContext.options s t.handler.kind
  course : Course (s.planned t.handler.kind) t.handler.kind.MayStop (s.Judges t.handler.kind)
    t.calls t.result t.after.files

theorem verdict_of_error {s : Settings} {t : Turn σ} {f : Failure} (h : t.result = .error f) :
    t.verdict s = .failed f.reason := by
  rw [verdict, h]
  rfl

theorem clear_issued {t : Turn (σ × List Call)} (h : ∀ c ∈ t.calls, c.fault? = none) :
    ∀ c ∈ t.issued, c.2.fault? = none := by
  intro c hc
  obtain ⟨call, hcall, rfl⟩ := List.mem_map.1 hc
  exact h call hcall

/-- A call that was answered with a failure fails the turn. -/
theorem Kept.clear_of_not_failed {s : Settings} {t : Turn (σ × List Call)} (h : t.Kept s)
    (ht : t.failed s = false) : ∀ c ∈ t.issued, c.2.fault? = none := by
  rcases h.course.of_fault with hclear | ⟨before, call, f, _, _, _, hresult⟩
  · exact clear_issued hclear
  · rw [failed_iff.2 ⟨_, verdict_of_error hresult⟩] at ht
    cases ht

end Turn

namespace Pipeline
variable {settings : Settings} {r : Runner σ}

theorem kept_ofAction {kind : StepKind}
    {action : StepContext (σ × List Call) → Action (σ × List Call) StepRun}
    (h : ∀ m, Action.Keeps (StepContext.options settings kind) (settings.planned kind) kind.MayStop
      (action (ofSettings settings r.watched).context) m (settings.Judges kind))
    (m : Machine (σ × List Call)) :
    ((ofSettings settings r.watched).turn (.ofAction kind action) m).Kept settings := by
  obtain ⟨calls, hlog, hoptions, hcourse⟩ := h { m with clock := m.clock.look.2 }
  rcases hrun : action (ofSettings settings r.watched).context
    { m with clock := m.clock.look.2 } with ⟨result, left⟩
  rw [hrun] at hlog hcourse
  have hexecute : (Handler.ofAction kind action).execute (ofSettings settings r.watched).context
      { m with clock := m.clock.look.2 } = (match result with
        | .ok run => .finished run
        | .error e => .error e, left) := by
    simp only [Handler.ofAction, hrun]
    cases result <;> rfl
  have hcalls : left.runner.2.drop m.runner.2.length = calls := by
    rw [hlog]
    exact List.drop_left
  rw [turn_of_execute hexecute]
  refine ⟨rfl, ?_, ?_, ?_⟩ <;> simp only [Turn.calls, hcalls]
  · exact hlog
  · exact hoptions
  · cases result <;> exact hcourse

theorem kept_standard (kind : StepKind) (m : Machine (σ × List Call)) :
    ((ofSettings settings r.watched).turn (.standard kind) m).Kept settings := by
  cases kind with
  | environment => exact kept_ofAction (fun _ => Step.environment_keeps) m
  | install => exact kept_ofAction (fun _ => Step.install_keeps) m
  | audit => exact kept_ofAction (fun _ => Step.audit_keeps) m
  | lint => exact kept_ofAction (fun _ => Step.lint_keeps) m
  | tests => exact kept_ofAction (fun _ => Step.tests_keeps) m
  | coverage => exact kept_ofAction (fun _ => Step.coverage_keeps) m
  | artifacts => exact kept_ofAction (fun _ => Step.artifacts_keeps) m

theorem kept_turns (kinds : List StepKind) (m : Machine (σ × List Call)) :
    ∀ t ∈ (ofSettings settings r.watched).turns (kinds.map Handler.standard) m,
      t.Kept settings := by
  induction kinds generalizing m with
  | nil => simp [turns]
  | cons kind rest ih =>
    intro t ht
    rcases List.mem_cons.1 ht with rfl | ht
    · exact kept_standard kind m
    · exact ih _ t ht

theorem kept_observed (settings : Settings) (r : Runner σ) (m : Machine σ) :
    ∀ t ∈ observed settings r m, t.Kept settings :=
  fun t ht =>
    kept_turns StepKind.sequence (opened m.watched) t ((Turn.upToFailure_prefix _ _).subset ht)

theorem observed_cases (settings : Settings) (r : Runner σ) (m : Machine σ) :
    (observed settings r m = (ofSettings settings r.watched).turns
        (StepKind.sequence.map Handler.standard) (opened m.watched) ∧
      ∀ t ∈ observed settings r m, t.failed settings = false) ∨
    ∃ earlier t reason, observed settings r m = earlier ++ [t] ∧
      (∀ u ∈ earlier, u.failed settings = false) ∧ t.verdict settings = .failed reason :=
  executed_cases (ofSettings settings r.watched) m.watched

/-- What the runner has kept after turns is what it had kept before, and then their calls. -/
theorem log_upToFailure (settings : Settings) (r : Runner σ) (kinds : List StepKind)
    (m : Machine (σ × List Call)) :
    let ts := Turn.upToFailure settings
      ((ofSettings settings r.watched).turns (kinds.map Handler.standard) m)
    (Turn.leave m ts).runner.2 = m.runner.2 ++ ts.flatMap Turn.calls := by
  induction kinds generalizing m with
  | nil => simp [turns, Turn.upToFailure, Turn.leave]
  | cons kind rest ih =>
    -- a failed turn leaves its log as the last one, any other hands it on to the rest
    intro ts
    have hlog : (turn (ofSettings settings r.watched) (.standard kind) m).after.runner.2 =
        m.runner.2 ++ ((ofSettings settings r.watched).turn (.standard kind) m).calls :=
      (kept_standard kind m).log
    simp only [ts, List.map_cons, turns, Turn.upToFailure, Turn.leave, List.flatMap_cons]
    split
    · simpa [Turn.leave] using hlog
    · rw [ih, hlog, List.append_assoc]

/-- A watched run has kept exactly the calls that were issued. -/
theorem log_run (metadata : Metadata) (m : Machine σ) :
    ((ofSettings settings r.watched).run metadata m.watched).machine.runner.2 =
      (issued settings r m).map (·.2) := by
  have h := log_upToFailure settings r StepKind.sequence (opened m.watched)
  rw [machine_runner]
  refine h.trans ?_
  rw [show (opened m.watched).runner.2 = [] from rfl, List.nil_append]
  simp only [issued, List.map_flatMap, Turn.issued, List.map_map, Function.comp_def, List.map_id']
  rfl

/-- Either no call of a run was answered with a failure, or the last one was, which ended its step
and the run with it. -/
theorem issued_cases (settings : Settings) (r : Runner σ) (m : Machine σ) :
    (∀ c ∈ issued settings r m, c.2.fault? = none) ∨
    ∃ earlier t before call f, observed settings r m = earlier ++ [t] ∧
      issued settings r m = before ++ [(t.handler.kind, call)] ∧
      (∀ c ∈ before, c.2.fault? = none) ∧ call ∈ t.calls ∧ call.fault? = some f ∧
      t.result = .error f ∧ ∀ u ∈ earlier, u.failed settings = false := by
  have hkept := kept_observed settings r m
  rcases observed_cases settings r m with ⟨_, hall⟩ | ⟨earlier, t, _, hobserved, hearlier, _⟩
  · refine .inl ?_
    intro c hc
    obtain ⟨t, ht, hc⟩ := List.mem_flatMap.1 hc
    exact (hkept t ht).clear_of_not_failed (hall t ht) c hc
  have hissued : issued settings r m = earlier.flatMap Turn.issued ++ t.issued := by
    rw [issued, hobserved, List.flatMap_append, List.flatMap_singleton]
  rw [hobserved] at hkept
  have hclear : ∀ c ∈ earlier.flatMap Turn.issued, c.2.fault? = none := by
    intro c hc
    obtain ⟨u, hu, hc⟩ := List.mem_flatMap.1 hc
    exact (hkept u (List.mem_append_left _ hu)).clear_of_not_failed (hearlier u hu) c hc
  rcases (hkept t (by simp)).course.of_fault with hlast | ⟨before, call, f, hcalls, hbefore, hf, hr⟩
  · refine .inl ?_
    rw [hissued]
    exact List.forall_mem_append.2 ⟨hclear, Turn.clear_issued hlast⟩
  · let known := before.map fun c => (t.handler.kind, c)
    have hknown : ∀ c ∈ known, c.2.fault? = none := by
      intro c hc
      obtain ⟨d, hd, rfl⟩ := List.mem_map.1 hc
      exact hbefore d hd
    refine .inr ⟨earlier, t, earlier.flatMap Turn.issued ++ known, call, f, hobserved, ?_,
      List.forall_mem_append.2 ⟨hclear, hknown⟩, by simp [hcalls], hf, hr, hearlier⟩
    rw [hissued, Turn.issued, hcalls, List.map_append, List.append_assoc]
    rfl

end Pipeline
end BuildPipeline
