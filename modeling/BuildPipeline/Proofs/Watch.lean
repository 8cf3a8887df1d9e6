import BuildPipeline.Proofs.RunReport
import BuildPipeline.Proofs.RunnerMap

/-! Runs whose runner is watched: every command is kept, with how it was issued and what the answer
was. Watching a run changes nothing in it. -/
namespace BuildPipeline
variable {σ : Type}

/-- A command as it was issued, and the runner's answer. -/
structure Call where
  command : String
  options : RunOptions
  answer : Except Failure ProcessOutput

namespace Call

/-- The failure that an answer is to a step: the runner's own, or a time limit that passed. -/
def fault? (c : Call) : Option Failure :=
  match c.answer with
  | .error f => some f
  | .ok o => if o.timedOut then some (.commandTimeout c.command c.options.limit) else none

/-- Answered with exit code zero, within the time limit. -/
def Green (c : Call) : Prop := ∃ o, c.answer = .ok o ∧ o.exitCode = 0 ∧ o.timedOut = false

theorem fault?_of_error {c : Call} {f : Failure} (h : c.answer = .error f) :
    c.fault? = some f := by
  rw [fault?, h]

theorem fault?_of_timedOut {c : Call} {o : ProcessOutput} (h : c.answer = .ok o)
    (ho : o.timedOut = true) : c.fault? = some (.commandTimeout c.command c.options.limit) := by
  simp only [fault?, h, ho, if_true]

theorem fault?_of_not_timedOut {c : Call} {o : ProcessOutput} (h : c.answer = .ok o)
    (ho : o.timedOut = false) : c.fault? = none := by
  simp only [fault?, h, ho, Bool.false_eq_true, if_false]

theorem not_timedOut {c : Call} {o : ProcessOutput} (h : c.answer = .ok o)
    (hclear : c.fault? = none) : o.timedOut = false := by
  cases ho : o.timedOut with
  | false => rfl
  | true =>
    rw [fault?_of_timedOut h ho] at hclear
    cases hclear

theorem Green.fault? {c : Call} (h : c.Green) : c.fault? = none := by
  obtain ⟨o, ho, _, ht⟩ := h
  exact fault?_of_not_timedOut ho ht

theorem green_iff_succeeded {c : Call} {o : ProcessOutput} (h : c.answer = .ok o) :
    c.Green ↔ o.succeeded = true := by
  simp [Green, h, ProcessOutput.succeeded]

end Call

def Runner.watched (r : Runner σ) : Runner (σ × List Call) :=
  fun command options files state =>
    match r command options files state.1 with
    | (answer, files, inner) =>
      (answer, files, inner, state.2 ++ [⟨command, options, answer⟩])

def Machine.watched (m : Machine σ) : Machine (σ × List Call) := ⟨m.files, (m.runner, []), m.clock⟩

theorem Runner.watched_lifts (r : Runner σ) : Runner.Lifts Prod.fst r.watched r :=
  fun _ _ _ _ => rfl

def Turn.calls (t : Turn (σ × List Call)) : List Call :=
  t.after.runner.2.drop t.before.runner.2.length

def Turn.issued (t : Turn (σ × List Call)) : List (StepKind × Call) :=
  t.calls.map fun c => (t.handler.kind, c)

namespace Pipeline

/-- The turns of a run of the standard steps, with their calls. -/
def observed (settings : Settings) (r : Runner σ) (m : Machine σ) : List (Turn (σ × List Call)) :=
  (ofSettings settings r.watched).executed m.watched

/-- All calls of a run of the standard steps in order, each with the kind of its step. -/
def issued (settings : Settings) (r : Runner σ) (m : Machine σ) : List (StepKind × Call) :=
  (observed settings r m).flatMap Turn.issued

/-- Watching changes nothing in a run. -/
theorem run_watched (settings : Settings) (r : Runner σ) (metadata : Metadata) (m : Machine σ) :
    (ofSettings settings r).run metadata m =
      ((ofSettings settings r.watched).run metadata m.watched).map Prod.fst :=
  run_map (ofSettings_lifts settings r.watched_lifts) metadata m.watched

theorem report_watched (settings : Settings) (r : Runner σ) (metadata : Metadata)
    (m : Machine σ) : ((ofSettings settings r).run metadata m).report =
      ((ofSettings settings r.watched).run metadata m.watched).report := by
  rw [run_watched]
  rfl

end Pipeline
end BuildPipeline
