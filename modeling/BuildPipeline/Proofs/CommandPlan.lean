import BuildPipeline.Proofs.GreenRun

/-! The commands of a run are issued by one plan, in its order. A run that fails stops somewhere in
the plan, at the failed step; any other run works through all of it. -/
namespace BuildPipeline
variable {σ : Type}

def Settings.plannedBy (s : Settings) (kind : StepKind) : List (StepKind × String) :=
  (s.planned kind).map fun command => (kind, command)

/-- Every command that a run is to issue, with the kind of its step. -/
def Settings.plan (s : Settings) : List (StepKind × String) :=
  StepKind.sequence.flatMap s.plannedBy

theorem Settings.plan_commands (s : Settings) : s.plan.map Prod.snd =
    s.commands.environment ++
    [s.commands.install, s.commands.audit, s.commands.lint, s.commands.test] ++
    (if (Text.trimmed s.commands.coverage).isEmpty then [] else [s.commands.coverage]) ++
    s.commands.package.toList := by
  simp [plan, plannedBy, planned, StepKind.sequence, Function.comp_def]

theorem prefix_flatMap {α β : Type} {xs ys : List α} (h : xs <+: ys) (f : α → List β) :
    xs.flatMap f <+: ys.flatMap f := by
  obtain ⟨more, rfl⟩ := h
  rw [List.flatMap_append]
  exact List.prefix_append _ _

namespace Turn
variable {s : Settings} {t : Turn (σ × List Call)}

def commands (t : Turn (σ × List Call)) : List (StepKind × String) :=
  t.issued.map fun c => (c.1, c.2.command)

theorem commands_eq (t : Turn (σ × List Call)) :
    t.commands = (t.calls.map Call.command).map fun command => (t.handler.kind, command) := by
  simp [commands, issued, Function.comp_def]

theorem Kept.commands_planned (h : t.Kept s) : t.commands <+: s.plannedBy t.handler.kind := by
  rw [commands_eq]
  exact h.course.commands_planned.map _

/-- A step that did not fail has issued all its commands. -/
theorem Kept.commands_of_not_failed (h : t.Kept s) (ht : t.failed s = false) :
    t.commands = s.plannedBy t.handler.kind := by
  have hcourse := h.course
  cases hresult : t.result with
  | error f =>
    rw [failed_iff.2 ⟨f.reason, verdict_of_error hresult⟩] at ht
    cases ht
  | ok run =>
    rw [hresult] at hcourse
    rw [commands_eq, hcourse.of_ok.1]
    rfl

theorem commands_of_not_failed {ts : List (Turn (σ × List Call))} (hkept : ∀ t ∈ ts, t.Kept s)
    (h : ∀ t ∈ ts, t.failed s = false) :
    ts.flatMap commands = (ts.map (·.handler.kind)).flatMap s.plannedBy := by
  rw [List.flatMap_map]
  exact List.flatMap_congr fun t ht => (hkept t ht).commands_of_not_failed (h t ht)

end Turn

namespace Pipeline
variable {settings : Settings} {r : Runner σ} {m : Machine σ}

theorem commands_issued : (issued settings r m).map (fun c => (c.1, c.2.command)) =
    (observed settings r m).flatMap Turn.commands := by
  rw [issued, List.map_flatMap]
  rfl

theorem issued_planned :
    (issued settings r m).map (fun c => (c.1, c.2.command)) <+: settings.plan := by
  have hkept := kept_observed settings r m
  have hkinds : (observed settings r m).map (·.handler.kind) <+: StepKind.sequence := kinds_observed
  rw [commands_issued]
  rcases observed_cases settings r m with ⟨_, hall⟩ | ⟨earlier, t, _, hobserved, hearlier, _⟩
  · rw [Turn.commands_of_not_failed hkept hall]
    exact prefix_flatMap hkinds settings.plannedBy
  · -- all steps but the last have issued their whole parts of the plan
    rw [hobserved] at hkept hkinds ⊢
    have hlast : t.commands <+: settings.plannedBy t.handler.kind :=
      (hkept t (by simp)).commands_planned
    have hplan := prefix_flatMap hkinds settings.plannedBy
    rw [List.map_append, List.flatMap_append, ← Turn.commands_of_not_failed
      (fun u hu => hkept u (List.mem_append_left _ hu)) hearlier] at hplan
    rw [List.flatMap_append, List.flatMap_singleton]
    refine ((List.prefix_append_right_inj _).2 ?_).trans hplan
    simpa using hlast

/-- A call belongs to a step before which no step failed. -/
theorem turn_of_issued {kind : StepKind} {call : Call} (h : (kind, call) ∈ issued settings r m) :
    ∃ earlier t later, observed settings r m = earlier ++ t :: later ∧ t.handler.kind = kind ∧
      call ∈ t.calls ∧ ∀ u ∈ earlier, u.failed settings = false := by
  obtain ⟨t, ht, hcall⟩ := List.mem_flatMap.1 h
  obtain ⟨_, hc, hpair⟩ := List.mem_map.1 hcall
  obtain ⟨rfl, rfl⟩ := Prod.mk.inj hpair
  obtain ⟨earlier, later, hsplit⟩ := List.mem_iff_append.1 ht
  exact ⟨earlier, t, later, hsplit, rfl, hc, Turn.not_failed_of_upToFailure hsplit⟩

theorem commands_of_not_failed (metadata : Metadata)
    (h : ((ofSettings settings r).run metadata m).report.status ≠ .failed) :
    (issued settings r m).map (fun c => (c.1, c.2.command)) = settings.plan := by
  rcases observed_cases settings r m with ⟨hturns, hall⟩ | ⟨earlier, t, reason, hobserved, hearlier,
    hv⟩
  · have hkinds : (observed settings r m).map (·.handler.kind) = StepKind.sequence := by
      rw [hturns, kinds_turns]
    rw [commands_issued, Turn.commands_of_not_failed (kept_observed settings r m) hall, hkinds]
    rfl
  · rw [report_watched] at h
    exact absurd (report_of_failed metadata hobserved hearlier hv).2.2 h

/-- Commands are issued by plan. What a run issues is the beginning of the plan, position by
position; a command is issued only if no earlier step failed; and a run that is not FAILED issues
the whole plan. The list of calls is what a watched runner has kept; watching changes nothing. -/
theorem run_follows_plan (settings : Settings) (r : Runner σ) (metadata : Metadata)
    (m : Machine σ) :
    let run := (ofSettings settings r).run metadata m
    let watched := (ofSettings settings r.watched).run metadata m.watched
    let calls := issued settings r m
    run = watched.map Prod.fst ∧
    watched.machine.runner.2 = calls.map Prod.snd ∧
    calls.map (fun c => (c.1, c.2.command)) <+: settings.plan ∧
    settings.plan.map Prod.snd =
      settings.commands.environment ++ [settings.commands.install, settings.commands.audit,
        settings.commands.lint, settings.commands.test] ++
      (if (Text.trimmed settings.commands.coverage).isEmpty then []
        else [settings.commands.coverage]) ++
      settings.commands.package.toList ∧
    run.report.steps = (observed settings r m).map (Turn.step settings) ∧
    (∀ c ∈ calls, ∃ earlier t later, observed settings r m = earlier ++ t :: later ∧
      t.handler.kind = c.1 ∧ c.2 ∈ t.calls ∧
      ∀ u ∈ earlier, (u.step settings).status ≠ .failed) ∧
    (run.report.status = .failed ∨
      calls.map (fun c => (c.1, c.2.command)) = settings.plan) := by
  intro run watched calls
  refine ⟨run_watched settings r metadata m, log_run metadata m, issued_planned,
    settings.plan_commands, ?_, ?_, ?_⟩
  · have hreport : run.report = watched.report := report_watched settings r metadata m
    rw [hreport]
    exact report_steps
  · intro c hc
    obtain ⟨earlier, t, later, hobserved, hkind, hcall, hearlier⟩ := turn_of_issued hc
    refine ⟨earlier, t, later, hobserved, hkind, hcall, ?_⟩
    intro u hu
    simpa [Turn.failed, Turn.step] using hearlier u hu
  · by_cases hstatus : run.report.status = .failed
    · exact .inl hstatus
    · exact .inr (commands_of_not_failed metadata hstatus)

end Pipeline
end BuildPipeline
