import BuildPipeline.Proofs.Metrics
import BuildPipeline.Proofs.RunReport

/-! The metrics of a report: of each name the value that was recorded last, and the pass rate that
the gate found. The gate comes to the same verdict on them as during the run. -/
namespace BuildPipeline
variable {σ α : Type}

namespace SortedMap

/-- The last binding of a key wins, and a key without one keeps its value. -/
theorem get?_insertAll (m : SortedMap α) (es : List (String × α)) (key : String) :
    (m.insertAll es).get? key = (es.reverse.lookup key).or (m.get? key) := by
  induction es generalizing m with
  | nil => rfl
  | cons e rest ih =>
    obtain ⟨name, value⟩ := e
    have hstep : (m.insertAll ((name, value) :: rest)).get? key =
        ((m.insert name value).insertAll rest).get? key := rfl
    rw [hstep, ih, get?_insert, List.reverse_cons, List.lookup_append, lookup_cons]
    by_cases hk : key = name
    · simp [hk]
    · simp [hk]

theorem mem_keys_iff {m : SortedMap α} {key : String} :
    key ∈ m.keys ↔ (m.get? key).isSome = true := by
  simp [keys, get?, List.lookup_isSome_iff]

theorem mem_keys_insertAll {es : List (String × α)} {key : String} :
    key ∈ (empty.insertAll es).keys ↔ key ∈ es.map Prod.fst := by
  have hget : (empty.insertAll es).get? key = es.reverse.lookup key := by
    rw [get?_insertAll]
    exact Option.or_none
  rw [mem_keys_iff, hget, List.lookup_isSome_iff]
  simp

/-- Where keys occur once, it does not matter which binding wins. -/
theorem lookup_reverse {es : List (String × α)} (h : (es.map Prod.fst).Nodup) (key : String) :
    es.reverse.lookup key = es.lookup key := by
  induction es with
  | nil => rfl
  | cons e rest ih =>
    obtain ⟨name, value⟩ := e
    obtain ⟨hname, hrest⟩ := List.nodup_cons.1 h
    rw [List.reverse_cons, List.lookup_append, ih hrest, lookup_cons, lookup_cons]
    by_cases hk : key = name
    · have hmissing : rest.lookup name = none := by
        rw [List.lookup_eq_none_iff]
        intro e he
        have hne : e.1 ≠ name := fun heq => hname (List.mem_map.2 ⟨e, he, heq⟩)
        simpa using hne.symm
      simp [hk, hmissing]
    · simp [hk]

/-- A key that is bound to one value only has that value. -/
theorem lookup_eq_some_of_unique {es : List (String × α)} {key : String} {value : α}
    (hmem : (key, value) ∈ es) (hunique : ∀ v, (key, v) ∈ es → v = value) :
    es.lookup key = some value := by
  cases hlookup : es.lookup key with
  | none =>
    have hmissing := List.lookup_eq_none_iff.1 hlookup (key, value) hmem
    simp at hmissing
  | some found =>
    obtain ⟨before, after, rfl, _⟩ := List.lookup_eq_some_iff.1 hlookup
    rw [hunique found (by simp)]

end SortedMap

namespace QualityGate

/-- No criterion looks at the recorded pass rate, whatever the coverage categories are called. -/
theorem violations_insert_passRate (metrics : SortedMap Float) (value : Float)
    (t : Thresholds Float) :
    violations (metrics.insert Metric.passRate value) t = violations metrics t := by
  have hcoverage : coverageViolation? (metrics.insert Metric.passRate value) =
      coverageViolation? metrics := by
    funext e
    simp only [coverageViolation?, recorded_insert_of_ne (Metric.coverage_ne_passRate e.1)]
  simp only [violations, hcoverage, passRateViolation?, rawPassRate_insert_passRate]

theorem passRate_insert_passRate (metrics : SortedMap Float) (value : Float) :
    passRate (metrics.insert Metric.passRate value) = passRate metrics := by
  rw [passRate, rawPassRate_insert_passRate, passRate]

theorem evaluate_insert_passRate (metrics : SortedMap Float) (value : Float)
    (t : Thresholds Float) :
    evaluate (metrics.insert Metric.passRate value) t = evaluate metrics t := by
  simp only [evaluate, violations_insert_passRate, passRate_insert_passRate]

end QualityGate

namespace Pipeline
variable {p : Pipeline σ} {metadata : Metadata} {m : Machine σ}

/-- A gate in a report is the verdict on the metrics of its steps, whose pass rate was added. -/
theorem report_metrics_of_gate {gate : GateVerdict}
    (h : (p.run metadata m).report.qualityGate = some gate) :
    gate = QualityGate.evaluate (p.drafted metadata m).metrics p.settings.thresholds ∧
    (p.run metadata m).report.metrics =
      (p.drafted metadata m).metrics.insert Metric.passRate gate.passRate := by
  constructor
  · rw [report_gate, gate?] at h
    split at h
    · cases h
    · exact (Option.some.inj h).symm
  · rw [report_metrics, h]
    rfl

/-- A report has of each name the value that the executed steps recorded last, where handlers that
did not finish recorded none. With a gate it also has the pass rate that the gate found, and the
gate's verdict can be had again from its metrics. -/
theorem run_metrics (p : Pipeline σ) (metadata : Metadata) (m : Machine σ) :
    let report := (p.run metadata m).report
    let recorded := (p.executed m).flatMap Turn.metrics
    report.steps = (p.executed m).map (Turn.step p.settings) ∧
    match report.qualityGate with
    | none => ∀ name, report.metrics.get? name = recorded.reverse.lookup name
    | some gate =>
      (∀ name, report.metrics.get? name =
        if name = Metric.passRate then some gate.passRate else recorded.reverse.lookup name) ∧
      QualityGate.evaluate report.metrics p.settings.thresholds = gate ∧
      QualityGate.passRate report.metrics = gate.passRate ∧
      report.metrics.get? Metric.passRate = some gate.passRate := by
  intro report recorded
  have hdrafted (name : String) :
      (p.drafted metadata m).metrics.get? name = recorded.reverse.lookup name := by
    rw [metrics_drafted, SortedMap.get?_insertAll]
    exact Option.or_none
  refine ⟨report_steps, ?_⟩
  cases hg : report.qualityGate with
  | none =>
    intro name
    have hmetrics : report.metrics = (p.drafted metadata m).metrics := by
      rw [report_metrics, show (p.run metadata m).report.qualityGate = none from hg]
      rfl
    rw [hmetrics, hdrafted]
  | some gate =>
    obtain ⟨hgate, hmetrics⟩ := report_metrics_of_gate hg
    have hget (name : String) : report.metrics.get? name =
        if name = Metric.passRate then some gate.passRate else recorded.reverse.lookup name := by
      rw [hmetrics, SortedMap.get?_insert, hdrafted]
    refine ⟨hget, ?_, ?_, ?_⟩
    · rw [hmetrics, QualityGate.evaluate_insert_passRate, ← hgate]
    · rw [hmetrics, QualityGate.passRate_insert_passRate, hgate]
      rfl
    · rw [hget, if_pos rfl]

end Pipeline
end BuildPipeline
