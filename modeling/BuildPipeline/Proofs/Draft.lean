import BuildPipeline.Report.Basic

/-! What a draft's steps, errors and gate verdict make of its status. -/
namespace BuildPipeline

/-- The criteria that a gate found unmet; a gate that was not evaluated found none. -/
def GateVerdict.missed (gate : Option GateVerdict) : List String :=
  match gate with
  | some g => g.violations
  | none => []

theorem PipelineStatus.aggregate_eq_failed_iff {steps : List StepResult} {violations : Nat} :
    aggregate steps violations = .failed ↔ ∃ s ∈ steps, s.status = .failed := by
  unfold aggregate
  split
  · next h => simpa using h
  · next h =>
    constructor
    · intro hs
      split at hs <;> cases hs
    · intro hs
      exact absurd (by simpa using hs) h

theorem PipelineStatus.aggregate_eq_success_iff {steps : List StepResult} {violations : Nat} :
    aggregate steps violations = .success ↔
      (∀ s ∈ steps, s.status = .success) ∧ violations = 0 := by
  unfold aggregate
  split
  · next h =>
    obtain ⟨s, hs, hf⟩ : ∃ s ∈ steps, s.status = .failed := by simpa using h
    constructor
    · intro hs'
      cases hs'
    · intro hall
      simp [hall.1 s hs] at hf
  · next h =>
    split
    · next hp =>
      constructor
      · intro hs'
        cases hs'
      · intro hall
        rcases Bool.or_eq_true_iff.1 hp with hv | hs
        · simp [hall.2] at hv
        · obtain ⟨s, hs, hn⟩ : ∃ s ∈ steps, s.status ≠ .success := by simpa using hs
          exact absurd (hall.1 s hs) hn
    · next hp =>
      have hp' : violations = 0 ∧ ∀ s ∈ steps, s.status = .success := by simpa using hp
      exact ⟨fun _ => ⟨hp'.2, hp'.1⟩, fun _ => rfl⟩

namespace Draft

theorem status_eq (d : Draft) (gate : Option GateVerdict) :
    d.status gate = if d.errors = [] then .aggregate d.steps (GateVerdict.missed gate).length
      else .failed := by
  cases gate <;> simp [status, GateVerdict.missed]

theorem status_eq_failed_iff {d : Draft} {gate : Option GateVerdict} :
    d.status gate = .failed ↔ d.errors ≠ [] ∨ ∃ s ∈ d.steps, s.status = .failed := by
  rw [status_eq]
  by_cases he : d.errors = []
  · simp [he, PipelineStatus.aggregate_eq_failed_iff]
  · simp [he]

theorem status_eq_success_iff {d : Draft} {gate : Option GateVerdict} :
    d.status gate = .success ↔ d.errors = [] ∧ (∀ s ∈ d.steps, s.status = .success) ∧
      GateVerdict.missed gate = [] := by
  rw [status_eq]
  by_cases he : d.errors = []
  · simp [he, PipelineStatus.aggregate_eq_success_iff]
  · simp [he]

theorem hasFailure_iff {d : Draft} : d.hasFailure = true ↔ ∃ s ∈ d.steps, s.status = .failed := by
  simp [hasFailure]

end Draft
end BuildPipeline
