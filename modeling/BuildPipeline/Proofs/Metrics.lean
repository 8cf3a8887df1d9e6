import BuildPipeline.QualityGate

/-! Recorded metrics, and what the quality gate misses in them. -/
namespace BuildPipeline
variable {α : Type}

namespace SortedMap

theorem lookup_cons (key k : String) (value : α) (es : List (String × α)) :
    ((key, value) :: es).lookup k = if k = key then some value else es.lookup k := by
  rw [List.lookup_cons]
  by_cases h : k = key
  · simp [h]
  · have hb : (k == key) = false := beq_false_of_ne h
    simp [hb, h]

theorem lookup_place (key k : String) (value : α) (es : List (String × α)) :
    (place key value es).lookup k = if k = key then some value else es.lookup k := by
  induction es with
  | nil => exact lookup_cons key k value []
  | cons e rest ih =>
    obtain ⟨key', value'⟩ := e
    simp only [place]
    split
    · exact lookup_cons key k value _
    · next hge =>
      split
      · next heq =>
        subst heq
        by_cases hk : k = key <;> simp [lookup_cons, hk]
      · next hne =>
        rw [lookup_cons, lookup_cons, ih]
        by_cases hk : k = key'
        · subst hk
          simp [Ne.symm hne]
        · simp [hk]

theorem get?_insert (m : SortedMap α) (key k : String) (value : α) :
    (m.insert key value).get? k = if k = key then some value else m.get? k :=
  lookup_place key k value m.entries

end SortedMap

namespace Metric

theorem coverage_ne_passRate (category : String) : coverage category ≠ passRate := by
  intro h
  have hchars := congrArg String.toList h
  simp [coverage, passRate] at hchars

end Metric

namespace QualityGate

theorem recorded_insert_of_ne {metrics : SortedMap Float} {name other : String} {value : Float}
    (h : name ≠ other) : recorded (metrics.insert other value) name = recorded metrics name := by
  rw [recorded, SortedMap.get?_insert, if_neg h, recorded]

/-- The recorded pass rate is not among the metrics that it is computed from. -/
theorem rawPassRate_insert_passRate (metrics : SortedMap Float) (value : Float) :
    rawPassRate (metrics.insert Metric.passRate value) = rawPassRate metrics := by
  have htotal : Metric.testsTotal ≠ Metric.passRate := by decide
  have hpassed : Metric.testsPassed ≠ Metric.passRate := by decide
  simp only [rawPassRate, recorded_insert_of_ne htotal, recorded_insert_of_ne hpassed]

theorem isMet_iff {t : Threshold Float} {actual : Float} :
    isMet t actual = true ↔ t.value ≤ actual := by
  cases t.comparison
  simp [isMet, Arithmetic.atLeast]

/-- Nothing is missed exactly if every category and the pass rate reach their thresholds. -/
theorem violations_eq_nil_iff {metrics : SortedMap Float} {t : Thresholds Float} :
    violations metrics t = [] ↔
      (∀ e ∈ t.coverage.entries, e.2.value ≤ recorded metrics (Metric.coverage e.1)) ∧
      t.passRate.value ≤ rawPassRate metrics := by
  have hcoverage (e : String × Threshold Float) : coverageViolation? metrics e = none ↔
      e.2.value ≤ recorded metrics (Metric.coverage e.1) := by
    rw [← isMet_iff, coverageViolation?]
    simp
  have hrate : passRateViolation? metrics t.passRate = none ↔
      t.passRate.value ≤ rawPassRate metrics := by
    rw [← isMet_iff, passRateViolation?]
    simp
  rw [violations, List.append_eq_nil_iff, List.filterMap_eq_nil_iff, Option.toList_eq_nil_iff,
    hrate]
  simp only [hcoverage]

end QualityGate
end BuildPipeline
