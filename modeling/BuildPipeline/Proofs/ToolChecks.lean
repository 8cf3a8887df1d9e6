import BuildPipeline.Proofs.RecordedMetrics
import BuildPipeline.Proofs.StepCourse

/-! The checks of environment validation. Answers are taken in one after another: of each command
the last version stays, and of all faults the first. -/
namespace BuildPipeline
variable {σ : Type}

/-- All calls were answered with outputs; these are listed with the commands. -/
def Call.Answered (calls : List Call) (answers : List (String × ProcessOutput)) : Prop :=
  calls.map (fun c => (c.command, c.answer)) = answers.map fun a => (a.1, .ok a.2)

namespace Call.Answered
variable {calls more : List Call} {answers rest : List (String × ProcessOutput)}

theorem append (h : Answered calls answers) (hmore : Answered more rest) :
    Answered (calls ++ more) (answers ++ rest) := by
  rw [Answered, List.map_append, List.map_append, h, hmore]

theorem commands (h : Answered calls answers) :
    calls.map Call.command = answers.map Prod.fst := by
  have hfirst := congrArg (List.map Prod.fst) h
  simpa [Function.comp_def] using hfirst

theorem mem (h : Answered calls answers) {c : Call} (hc : c ∈ calls) :
    ∃ a ∈ answers, c.command = a.1 ∧ c.answer = .ok a.2 := by
  have hpair : (c.command, c.answer) ∈ calls.map fun c => (c.command, c.answer) :=
    List.mem_map_of_mem hc
  rw [h] at hpair
  obtain ⟨a, ha, heq⟩ := List.mem_map.1 hpair
  obtain ⟨hcommand, hanswer⟩ := Prod.mk.inj heq
  exact ⟨a, ha, hcommand.symm, hanswer.symm⟩

theorem exists_call (h : Answered calls answers) {a : String × ProcessOutput} (ha : a ∈ answers) :
    ∃ c ∈ calls, c.command = a.1 ∧ c.answer = .ok a.2 := by
  have hpair : (a.1, (.ok a.2 : Except Failure ProcessOutput)) ∈
      answers.map fun a => (a.1, .ok a.2) := List.mem_map_of_mem ha
  rw [← h] at hpair
  obtain ⟨c, hc, heq⟩ := List.mem_map.1 hpair
  exact ⟨c, hc, Prod.mk.inj heq⟩

theorem forall_green (h : Answered calls answers) :
    (∀ c ∈ calls, c.Green) ↔ ∀ a ∈ answers, exitFailure? a.2 = none := by
  constructor
  · intro hgreen a ha
    obtain ⟨c, hc, -, hanswer⟩ := h.exists_call ha
    exact exitFailure?_eq_none_iff.2 ((green_iff_succeeded hanswer).1 (hgreen c hc))
  · intro hnone c hc
    obtain ⟨a, ha, -, hanswer⟩ := h.mem hc
    exact (green_iff_succeeded hanswer).2 (exitFailure?_eq_none_iff.1 (hnone a ha))

end Call.Answered

namespace Step

/-- What the answer to a command has against it. -/
def faultOf (a : String × ProcessOutput) : Option String :=
  (exitFailure? a.2).map fun reason => "'" ++ a.1 ++ "' " ++ reason

namespace ToolChecks

def addAll (checks : ToolChecks) (answers : List (String × ProcessOutput)) : ToolChecks :=
  answers.foldl (fun checks a => checks.add a.1 a.2) checks

theorem tools_addAll (checks : ToolChecks) (answers : List (String × ProcessOutput)) :
    (checks.addAll answers).tools =
      checks.tools.insertAll (answers.map fun a => (a.1, version a.2)) := by
  induction answers generalizing checks with
  | nil => rfl
  | cons a rest ih => exact ih (checks.add a.1 a.2)

theorem fault_addAll (checks : ToolChecks) (answers : List (String × ProcessOutput)) :
    (checks.addAll answers).fault = checks.fault.or (answers.findSome? faultOf) := by
  induction answers generalizing checks with
  | nil => exact Option.or_none.symm
  | cons a rest ih =>
    have hadd : (checks.add a.1 a.2).fault = checks.fault.or (faultOf a) := rfl
    have hrest : (checks.addAll (a :: rest)).fault =
        ((checks.add a.1 a.2).addAll rest).fault := rfl
    rw [hrest, ih, hadd, Option.or_assoc, List.findSome?_cons]
    cases faultOf a <;> rfl

end ToolChecks
end Step

/-- What environment validation reports of answers, with the files that are there in the end. -/
def Settings.environmentRun (s : Settings) (answers : List (String × ProcessOutput))
    (files : FileSystem) : StepRun :=
  let checks := Step.ToolChecks.addAll {} answers
  let manifestPresent := files.existsAt (s.resolve ⟨s.manifest⟩)
  let configPresent := s.configFile.any fun file => files.existsAt (s.resolve ⟨file⟩)
  let missing :=
    if manifestPresent then none else some (Failure.missingFile s.manifest).message
  .ofFailure
    (.environment ⟨checks.tools, s.manifest, manifestPresent, s.configFile, configPresent⟩)
    (checks.fault.or missing)

theorem Settings.succeeded_environmentRun {s : Settings}
    {answers : List (String × ProcessOutput)} {files : FileSystem} :
    (s.environmentRun answers files).succeeded = true ↔
      (∀ a ∈ answers, exitFailure? a.2 = none) ∧
        files.existsAt (s.resolve ⟨s.manifest⟩) = true := by
  rw [environmentRun, StepRun.succeeded_ofFailure, Option.or_eq_none_iff,
    Step.ToolChecks.fault_addAll, Option.none_or, List.findSome?_eq_none_iff]
  simp [Step.faultOf]

namespace Step
variable {settings : Settings} {r : Runner σ} {scrapers : Scrapers} {m : Machine (σ × List Call)}
  {other : Failure → Prop}

/-- To checks made before, the answers to the remaining commands are added in their order. -/
theorem checkTools_keeps (commands : List String) (checks : ToolChecks) :
    Action.Keeps (StepContext.options settings .environment) commands other
      (commands.foldlM
        (fun checks command => do
          let output ← StepContext.command ⟨settings, r.watched, scrapers⟩ .environment command
          return checks.add command output)
        checks)
      m fun calls out _ =>
        ∃ answers, Call.Answered calls answers ∧ out = checks.addAll answers := by
  induction commands generalizing checks m with
  | nil => exact .pure ⟨[], rfl, rfl⟩
  | cons command rest ih =>
    rw [List.foldlM_cons]
    have hfirst : Action.Keeps (StepContext.options settings .environment) [command] other
        (do
          let output ← StepContext.command ⟨settings, r.watched, scrapers⟩ .environment command
          return checks.add command output)
        m fun calls out _ => ∃ o, Call.Answered calls [(command, o)] ∧
          out = checks.add command o := by
      refine StepContext.command_keeps.bind_last ?_
      rintro _ o m₁ ⟨call, rfl, hanswer, _, hcommand⟩
      refine .pure ⟨o, ?_, rfl⟩
      simp [Call.Answered, hanswer, hcommand]
    refine hfirst.bind ?_
    rintro calls _ m₁ ⟨o, hcalls, rfl⟩
    refine (ih (checks.add command o)).mono ?_
    rintro more _ _ ⟨answers, hmore, rfl⟩
    exact ⟨(command, o) :: answers, hcalls.append hmore, rfl⟩

theorem environment_answered :
    Action.Keeps (StepContext.options settings .environment) settings.commands.environment other
      (environment ⟨settings, r.watched, scrapers⟩) m fun calls run files =>
        ∃ answers, Call.Answered calls answers ∧ run = settings.environmentRun answers files := by
  refine (checkTools_keeps settings.commands.environment {}).bind_last ?_
  rintro calls _ m₁ ⟨answers, hanswers, rfl⟩
  refine Action.Keeps.look.bind_first ?_
  rintro _ manifestPresent m₂ ⟨rfl, rfl, hfiles⟩
  refine Action.Keeps.look.bind_first ?_
  rintro _ configPresent m₃ ⟨rfl, rfl, hfiles'⟩
  refine .pure ⟨answers, ?_, ?_⟩
  · simpa using hanswers
  · rw [hfiles']
    rfl

end Step
end BuildPipeline
