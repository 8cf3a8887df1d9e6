import BuildPipeline.Proofs.Draft
import BuildPipeline.Proofs.RecordedMetrics

/-! A draft under any sequence of additions: it only grows, and the finished report holds what was
added to it. -/
namespace BuildPipeline

/-- What can be added to a draft. -/
inductive Addition
  | step (s : StepResult)
  | metric (name : String) (value : Float)
  | error (message : String)

namespace Addition

def step? : Addition → Option StepResult
  | .step s => some s
  | _ => none

def metric? : Addition → Option (String × Float)
  | .metric name value => some (name, value)
  | _ => none

def error? : Addition → Option String
  | .error message => some message
  | _ => none

end Addition

namespace Draft

def add (d : Draft) : Addition → Draft
  | .step s => d.pushStep s
  | .metric name value => d.recordMetric name value
  | .error message => d.pushError message

def addAll (d : Draft) (additions : List Addition) : Draft := additions.foldl add d

variable {d : Draft}

/-! ### One addition -/

theorem steps_add (d : Draft) (a : Addition) : (d.add a).steps = d.steps ++ a.step?.toList := by
  cases a with
  | step s => rfl
  | metric name value => exact (List.append_nil _).symm
  | error message => exact (List.append_nil _).symm

theorem errors_add (d : Draft) (a : Addition) : (d.add a).errors = d.errors ++ a.error?.toList := by
  cases a with
  | step s => exact (List.append_nil _).symm
  | metric name value => exact (List.append_nil _).symm
  | error message => rfl

theorem metrics_add (d : Draft) (a : Addition) :
    (d.add a).metrics = d.metrics.insertAll a.metric?.toList := by
  cases a <;> rfl

/-! ### All additions -/

theorem addAll_append (d : Draft) (front back : List Addition) :
    d.addAll (front ++ back) = (d.addAll front).addAll back := List.foldl_append

theorem steps_addAll (d : Draft) (additions : List Addition) :
    (d.addAll additions).steps = d.steps ++ additions.filterMap Addition.step? := by
  induction additions generalizing d with
  | nil => exact (List.append_nil _).symm
  | cons a rest ih =>
    change ((d.add a).addAll rest).steps = _
    rw [ih, steps_add, List.append_assoc]
    cases h : a.step? <;> simp [h]

theorem errors_addAll (d : Draft) (additions : List Addition) :
    (d.addAll additions).errors = d.errors ++ additions.filterMap Addition.error? := by
  induction additions generalizing d with
  | nil => exact (List.append_nil _).symm
  | cons a rest ih =>
    change ((d.add a).addAll rest).errors = _
    rw [ih, errors_add, List.append_assoc]
    cases h : a.error? <;> simp [h]

theorem metrics_addAll (d : Draft) (additions : List Addition) :
    (d.addAll additions).metrics =
      d.metrics.insertAll (additions.filterMap Addition.metric?) := by
  induction additions generalizing d with
  | nil => rfl
  | cons a rest ih =>
    change ((d.add a).addAll rest).metrics = _
    rw [ih, metrics_add]
    cases h : a.metric? <;> simp [h, SortedMap.insertAll]

/-- What is in a draft stays there, in its place. -/
theorem prefix_addAll (d : Draft) (additions : List Addition) :
    d.steps <+: (d.addAll additions).steps ∧ d.errors <+: (d.addAll additions).errors := by
  rw [steps_addAll, errors_addAll]
  exact ⟨List.prefix_append _ _, List.prefix_append _ _⟩

theorem status_cases (d : Draft) (gate : Option GateVerdict) :
    d.status gate =
      if (∃ s ∈ d.steps, s.status = .failed) ∨ d.errors ≠ [] then .failed
      else if (∀ s ∈ d.steps, s.status = .success) ∧ ∀ g ∈ gate, g.violations = [] then .success
      else .partly := by
  have hmissed : GateVerdict.missed gate = [] ↔ ∀ g ∈ gate, g.violations = [] := by
    cases gate <;> simp [GateVerdict.missed]
  split
  · next h => exact status_eq_failed_iff.2 h.symm
  · next h =>
    rw [not_or, Classical.not_not] at h
    split
    · next hall => exact status_eq_success_iff.2 ⟨h.2, hall.1, hmissed.2 hall.2⟩
    · next hall =>
      cases hstatus : d.status gate with
      | success =>
        obtain ⟨-, hsteps, hgate⟩ := status_eq_success_iff.1 hstatus
        exact absurd ⟨hsteps, hmissed.1 hgate⟩ hall
      | partly => rfl
      | failed =>
        obtain herrors | hfailed := status_eq_failed_iff.1 hstatus
        · exact absurd h.2 herrors
        · exact absurd hfailed h.1

end Draft

namespace Report
variable {r : Report}

theorem sum_countStatus (r : Report) : r.countStatus .success + r.countStatus .warning +
    r.countStatus .partly + r.countStatus .failed = r.steps.length := by
  simp only [countStatus]
  induction r.steps with
  | nil => rfl
  | cons s rest ih =>
    simp only [List.countP_cons, List.length_cons]
    cases s.status <;> simp <;> omega

theorem step?_eq_some_iff {name : String} {s : StepResult} : r.step? name = some s ↔
    s.name = name ∧ ∃ before after,
      r.steps = before ++ s :: after ∧ ∀ x ∈ before, x.name ≠ name := by
  simp [step?, List.find?_eq_some_iff_append]

theorem step?_eq_none_iff {name : String} :
    r.step? name = none ↔ ∀ s ∈ r.steps, s.name ≠ name := by
  simp [step?]

end Report

/-- A draft that is begun empty and added to only grows: what it holds at any time stays, in its
place. The finished report has the steps and errors in the order of their additions, of each
name the value added last, and the gate it was given; an error or a failed step makes it FAILED. -/
theorem Draft.finalize_addAll (metadata : Metadata) (opened closed : Reading)
    (additions : List Addition) (gate : Option GateVerdict) :
    let fresh : Draft := { metadata := metadata, opened := opened }
    let d := fresh.addAll additions
    let r := d.finalize gate closed
    let pushed := additions.filterMap Addition.step?
    (∀ n, let earlier := fresh.addAll (additions.take n)
      earlier.steps <+: d.steps ∧ earlier.errors <+: d.errors) ∧
    r.steps = pushed ∧ r.errors = additions.filterMap Addition.error? ∧
    (∀ name, r.metric? name =
      (additions.filterMap Addition.metric?).reverse.lookup name) ∧
    r.metrics.keys.Pairwise (· < ·) ∧
    r.qualityGate = gate ∧
    (∀ s ∈ r.steps, (∃ name startedAt duration detail verdict,
        s = .ofVerdict name startedAt duration detail verdict) →
      (s.errorMessage.isSome = true ↔ s.status = .failed)) ∧
    r.status = (if (∃ s ∈ pushed, s.status = .failed) ∨ r.errors ≠ [] then .failed
      else if (∀ s ∈ pushed, s.status = .success) ∧ ∀ g ∈ gate, g.violations = [] then .success
      else .partly) ∧
    r.countStatus .success + r.countStatus .warning + r.countStatus .partly +
      r.countStatus .failed = pushed.length ∧
    ∀ name, (∀ s, r.step? name = some s ↔ s.name = name ∧ ∃ before after,
        pushed = before ++ s :: after ∧ ∀ x ∈ before, x.name ≠ name) ∧
      (r.step? name = none ↔ ∀ s ∈ pushed, s.name ≠ name) := by
  intro fresh d r pushed
  have hsteps : d.steps = pushed := steps_addAll fresh additions
  have herrors : d.errors = additions.filterMap Addition.error? := errors_addAll fresh additions
  refine ⟨fun n => ?_, hsteps, herrors, fun name => ?_, ?_, rfl, ?_, ?_, ?_,
    fun name => ⟨fun s => ?_, ?_⟩⟩
  · have hsplit : d = (fresh.addAll (additions.take n)).addAll (additions.drop n) := by
      rw [← addAll_append, List.take_append_drop]
    rw [hsplit]
    exact prefix_addAll _ _
  · have hmetrics : d.metrics.get? name = _ :=
      (congrArg (SortedMap.get? · name) (metrics_addAll fresh additions)).trans
        (SortedMap.get?_insertAll _ _ _)
    exact hmetrics.trans (Option.or_none)
  · exact List.pairwise_map.2 r.metrics.sorted
  · rintro s - ⟨name, startedAt, duration, detail, verdict, rfl⟩
    exact Verdict.reason?_isSome_iff
  · rw [← hsteps]
    exact status_cases d gate
  · exact (Report.sum_countStatus r).trans (congrArg List.length hsteps)
  · rw [← hsteps]
    exact Report.step?_eq_some_iff
  · rw [← hsteps]
    exact Report.step?_eq_none_iff

end BuildPipeline
