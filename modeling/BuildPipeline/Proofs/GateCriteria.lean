import BuildPipeline.Proofs.Metrics
import Mathlib.Algebra.Order.Field.Basic
import Mathlib.Algebra.Order.Ring.Rat
import Mathlib.Tactic.Linarith

/-! What the quality gate reports: each criterion that the metrics miss, once and in category order,
the pass rate last. Better metrics under easier thresholds miss no more. -/
namespace BuildPipeline.QualityGate

section Missed
variable {α : Type} [Arithmetic α] {metrics : SortedMap α} {t : Thresholds α}

theorem isMet_eq (t : Threshold α) (actual : α) :
    isMet t actual = Arithmetic.atLeast actual t.value := by
  cases t.comparison
  rfl

/-- The configured categories that the metrics miss. -/
def missed (metrics : SortedMap α) (t : Thresholds α) : List (String × Threshold α) :=
  t.coverage.entries.filter fun e => !isMet e.2 (recorded metrics (Metric.coverage e.1))

/-- The violations are those of the missed categories, and of the pass rate if that is missed. -/
theorem violations_eq (metrics : SortedMap α) (t : Thresholds α) :
    violations metrics t =
      (missed metrics t).map (fun e => .coverage e.1
        (shownBelow (recorded metrics (Metric.coverage e.1)) e.2.value) e.2.value) ++
      if isMet t.passRate (rawPassRate metrics) then []
      else [.passRate (shownBelow (rawPassRate metrics) t.passRate.value) t.passRate.value] := by
  have hcoverage (es : List (String × Threshold α)) :
      es.filterMap (coverageViolation? metrics) =
        (es.filter fun e => !isMet e.2 (recorded metrics (Metric.coverage e.1))).map fun e =>
          .coverage e.1 (shownBelow (recorded metrics (Metric.coverage e.1)) e.2.value)
            e.2.value := by
    induction es with
    | nil => rfl
    | cons e rest ih =>
      cases h : isMet e.2 (recorded metrics (Metric.coverage e.1)) with
      | true => simp [coverageViolation?, h, ih]
      | false => simp [coverageViolation?, h, ih]
  rw [violations, hcoverage, passRateViolation?, missed]
  split <;> rfl

def FlagsCategory (vs : List (Violation α)) (category : String) : Prop :=
  ∃ shown threshold, .coverage category shown threshold ∈ vs

def FlagsPassRate (vs : List (Violation α)) : Prop :=
  ∃ shown threshold, .passRate shown threshold ∈ vs

theorem flagsCategory_iff {category : String} : FlagsCategory (violations metrics t) category ↔
    ∃ threshold, (category, threshold) ∈ t.coverage.entries ∧
      isMet threshold (recorded metrics (Metric.coverage category)) = false := by
  rw [violations_eq]
  constructor
  · rintro ⟨shown, threshold, h⟩
    obtain hcoverage | hrate := List.mem_append.1 h
    · obtain ⟨⟨name, value⟩, hmem, heq⟩ := List.mem_map.1 hcoverage
      obtain ⟨hentry, hmet⟩ := List.mem_filter.1 hmem
      rw [Violation.coverage.injEq] at heq
      obtain ⟨rfl, -, -⟩ := heq
      exact ⟨value, hentry, by simpa using hmet⟩
    · split at hrate <;> simp at hrate
  · rintro ⟨threshold, hentry, hmet⟩
    have hmem : (category, threshold) ∈ missed metrics t :=
      List.mem_filter.2 ⟨hentry, by simp [hmet]⟩
    exact ⟨_, _, List.mem_append_left _ (List.mem_map_of_mem hmem)⟩

theorem flagsPassRate_iff : FlagsPassRate (violations metrics t) ↔
    isMet t.passRate (rawPassRate metrics) = false := by
  rw [violations_eq, FlagsPassRate]
  cases isMet t.passRate (rawPassRate metrics) <;> simp

theorem violations_eq_nil_of_unflagged
    (hcategory : ∀ category, ¬ FlagsCategory (violations metrics t) category)
    (hrate : ¬ FlagsPassRate (violations metrics t)) : violations metrics t = [] := by
  refine List.eq_nil_iff_forall_not_mem.2 fun v hv => ?_
  cases v with
  | coverage category shown threshold => exact hcategory category ⟨shown, threshold, hv⟩
  | passRate shown threshold => exact hrate ⟨shown, threshold, hv⟩

end Missed

/-! ### Messages -/

theorem rawPassRate_eq (metrics : SortedMap Float) :
    rawPassRate metrics = (metrics.get? "tests.passed").getD 0 * 100 /
      max 1 ((metrics.get? "tests.total").getD 0) := by
  have hzero : (Arithmetic.ofNat 0 : Float) = 0 := by decide
  have hone : (Arithmetic.ofNat 1 : Float) = 1 := by decide
  have hhundred : (hundred : Float) = 100 := by decide
  simp only [rawPassRate, recorded, hzero, hone, hhundred, Arithmetic.atLeast, decide_eq_true_eq]
  rfl

/-- The gate has one message for each configured category whose recorded value, or zero, is not at
least the threshold, in ascending order of their names, and after them one for the pass rate if that
is not at least its threshold. What a message shows may be rounded; what decides is not. -/
theorem evaluate_reports (metrics : SortedMap Float) (t : Thresholds Float) :
    let value (name : String) : Float := (metrics.get? name).getD 0
    let rate := value "tests.passed" * 100 / max 1 (value "tests.total")
    let message (subject : String) (actual threshold : Float) : String :=
      subject ++ Decimal.plain (shownBelow actual threshold) ++ "% below threshold " ++
        Decimal.plain threshold ++ "%"
    t.coverage.keys.Pairwise (· < ·) ∧
    (evaluate metrics t).violations =
      ((t.coverage.entries.filter fun e => ¬ e.2.value ≤ value ("coverage." ++ e.1)).map
        fun e => message (e.1 ++ " coverage ") (value ("coverage." ++ e.1)) e.2.value) ++
      (if t.passRate.value ≤ rate then []
        else [message "test pass rate " rate t.passRate.value]) ∧
    ((evaluate metrics t).passed = true ↔ (evaluate metrics t).violations = []) := by
  intro value rate message
  have hzero : (Arithmetic.ofNat 0 : Float) = 0 := by decide
  have hvalue (name : String) : recorded metrics name = value name := by rw [recorded, hzero]
  have hrate : rawPassRate metrics = rate := rawPassRate_eq metrics
  have hmet (threshold : Threshold Float) (actual : Float) :
      isMet threshold actual = decide (threshold.value ≤ actual) := isMet_eq threshold actual
  have hmissed : missed metrics t =
      t.coverage.entries.filter fun e => ¬ e.2.value ≤ value ("coverage." ++ e.1) := by
    simp only [missed, hmet, hvalue, decide_not]
    rfl
  have hlast : (if isMet t.passRate rate then []
        else [Violation.passRate (shownBelow rate t.passRate.value) t.passRate.value]).map
          Violation.message =
      if t.passRate.value ≤ rate then []
      else [message "test pass rate " rate t.passRate.value] := by
    rw [hmet]
    by_cases h : t.passRate.value ≤ rate
    · rw [decide_eq_true h, if_pos rfl, if_pos h, List.map_nil]
    · rw [decide_eq_false h, if_neg Bool.false_ne_true, if_neg h, List.map_singleton]
      rfl
  refine ⟨List.pairwise_map.2 t.coverage.sorted, ?_, ?_⟩
  · rw [← hmissed, ← hlast, ← hrate]
    simp only [evaluate, violations_eq, List.map_append, List.map_map]
    rfl
  · simp [evaluate]

/-! ### Better metrics and easier thresholds -/

/-- The second metrics come from the first ones by raising coverage, by passing tests that are new,
and by tests that pass and did not. A metric that is not recorded counts as zero. -/
structure Improves (before after : SortedMap Rat) : Prop where
  coverage : ∀ category,
    recorded before (Metric.coverage category) ≤ recorded after (Metric.coverage category)
  tests : ∃ passed total added mended : Nat, passed + mended ≤ total ∧
    recorded before Metric.testsPassed = passed ∧ recorded before Metric.testsTotal = total ∧
    recorded after Metric.testsPassed = (passed + added + mended : Nat) ∧
    recorded after Metric.testsTotal = (total + added : Nat)

/-- Thresholds for the same categories, none of them higher. -/
structure Eases (strict mild : Thresholds Rat) : Prop where
  categories : mild.coverage.keys = strict.coverage.keys
  coverage : ∀ category high low, (category, high) ∈ strict.coverage.entries →
    (category, low) ∈ mild.coverage.entries → low.value ≤ high.value
  passRate : mild.passRate.value ≤ strict.passRate.value

theorem isMet_iff_le {t : Threshold Rat} {actual : Rat} :
    isMet t actual = true ↔ t.value ≤ actual := by
  rw [isMet_eq]
  exact decide_eq_true_iff

theorem rawPassRate_of_counts {metrics : SortedMap Rat} {passed total : Nat}
    (hpassed : recorded metrics Metric.testsPassed = passed)
    (htotal : recorded metrics Metric.testsTotal = total) :
    rawPassRate metrics = (passed * 100 : Nat) / (max total 1 : Nat) := by
  have hrate : rawPassRate metrics =
      (passed : Rat) * 100 / if (1 : Rat) ≤ total then (total : Rat) else 1 := by
    rw [rawPassRate, hpassed, htotal]
    simp only [Arithmetic.atLeast, decide_eq_true_eq]
    rfl
  rw [hrate]
  push_cast
  congr 1
  by_cases h : 1 ≤ total
  · rw [if_pos (by exact_mod_cast h), max_eq_left (by exact_mod_cast h)]
  · rw [if_neg (by exact_mod_cast h), max_eq_right (by exact_mod_cast Nat.le_of_not_le h)]

/-- The pass rate is no lower when tests are added that pass or tests pass that did not, also where
there were none at first. -/
theorem Improves.rawPassRate_le {before after : SortedMap Rat} (h : Improves before after) :
    rawPassRate before ≤ rawPassRate after := by
  obtain ⟨passed, total, added, mended, hle, hpassed, htotal, hpassed', htotal'⟩ := h.tests
  rw [rawPassRate_of_counts hpassed htotal, rawPassRate_of_counts hpassed' htotal']
  have hpos : (0 : Rat) < (max total 1 : Nat) := by
    exact_mod_cast Nat.lt_of_lt_of_le Nat.one_pos (Nat.le_max_right total 1)
  have hpos' : (0 : Rat) < (max (total + added) 1 : Nat) := by
    exact_mod_cast Nat.lt_of_lt_of_le Nat.one_pos (Nat.le_max_right (total + added) 1)
  rw [div_le_div_iff₀ hpos hpos']
  -- multiplied out: a test that is new adds as much to either side as to the other
  have hcross : passed * max (total + added) 1 ≤ (passed + added + mended) * max total 1 := by
    cases total with
    | zero =>
      have hnone : passed = 0 := by omega
      simp [hnone]
    | succ n =>
      rw [Nat.max_eq_left (by omega), Nat.max_eq_left (by omega)]
      calc passed * (n + 1 + added) = passed * (n + 1) + passed * added := Nat.mul_add _ _ _
        _ ≤ passed * (n + 1) + (n + 1) * added :=
          Nat.add_le_add_left (Nat.mul_le_mul_right added (by omega)) _
        _ ≤ (passed + added + mended) * (n + 1) := by
          rw [Nat.add_mul (passed + added), Nat.add_mul passed, Nat.mul_comm (n + 1) added]
          omega
  rw [← Nat.cast_mul, ← Nat.cast_mul, Nat.cast_le, Nat.mul_right_comm,
    Nat.mul_right_comm (passed + added + mended)]
  exact Nat.mul_le_mul_right 100 hcross

/-- A gate is monotone: with better metrics and easier thresholds it flags nothing new, and passes
if it passed. -/
theorem violations_monotone {before after : SortedMap Rat} {strict mild : Thresholds Rat}
    (hmetrics : Improves before after) (hthresholds : Eases strict mild) :
    (∀ category, FlagsCategory (violations after mild) category →
      FlagsCategory (violations before strict) category) ∧
    (FlagsPassRate (violations after mild) → FlagsPassRate (violations before strict)) ∧
    (violations before strict = [] → violations after mild = []) := by
  have hunmet {high low : Threshold Rat} {worse better : Rat} (hvalue : low.value ≤ high.value)
      (hactual : worse ≤ better) (h : isMet low better = false) : isMet high worse = false := by
    rw [← Bool.not_eq_true, isMet_iff_le] at h ⊢
    exact fun hle => h (le_trans hvalue (le_trans hle hactual))
  have hcategory (category : String) (h : FlagsCategory (violations after mild) category) :
      FlagsCategory (violations before strict) category := by
    obtain ⟨low, hlow, hmissed⟩ := flagsCategory_iff.1 h
    have hkey : category ∈ strict.coverage.keys := by
      rw [← hthresholds.categories]
      exact List.mem_map_of_mem (f := Prod.fst) hlow
    obtain ⟨⟨name, high⟩, hhigh, rfl⟩ := List.mem_map.1 hkey
    exact flagsCategory_iff.2 ⟨high, hhigh, hunmet (hthresholds.coverage name high low hhigh hlow)
      (hmetrics.coverage name) hmissed⟩
  have hrate (h : FlagsPassRate (violations after mild)) :
      FlagsPassRate (violations before strict) :=
    flagsPassRate_iff.2
      (hunmet hthresholds.passRate hmetrics.rawPassRate_le (flagsPassRate_iff.1 h))
  refine ⟨hcategory, hrate, fun hnone => violations_eq_nil_of_unflagged ?_ ?_⟩
  · intro category hflagged
    obtain ⟨shown, threshold, hmem⟩ := hcategory category hflagged
    simp [hnone] at hmem
  · intro hflagged
    obtain ⟨shown, threshold, hmem⟩ := hrate hflagged
    simp [hnone] at hmem

def untested : SortedMap Rat := .ofList [("coverage.lines", 80)]

def tested : SortedMap Rat :=
  .ofList [("coverage.lines", 90), ("tests.passed", 3), ("tests.total", 3)]

def linesAndTests (lines passRate : Rat) : Thresholds Rat :=
  ⟨.ofList [("lines", ⟨lines, .atLeast⟩)], ⟨passRate, .atLeast⟩⟩

theorem improves_tested : Improves untested tested where
  coverage category := by
    by_cases hlines : Metric.coverage category = "coverage.lines"
    · rw [hlines]
      decide +kernel
    · have hnone : recorded untested (Metric.coverage category) = 0 := by
        simp only [recorded, untested, SortedMap.ofList, List.foldl, SortedMap.get?_insert,
          if_neg hlines]
        rfl
      rw [hnone]
      simp only [recorded, tested, SortedMap.ofList, List.foldl, SortedMap.get?_insert,
        if_neg hlines]
      split
      · decide +kernel
      split
      · decide +kernel
      · exact le_refl (0 : Rat)
  tests := ⟨0, 0, 3, 0, by decide, by decide +kernel, by decide +kernel, by decide +kernel,
    by decide +kernel⟩

theorem violations_tested : violations untested (linesAndTests 80 0) = [] ∧
    violations tested (linesAndTests 75 0) = [] := by
  have hbefore : violations untested (linesAndTests 80 0) = [] := by decide +kernel
  have heases : Eases (linesAndTests 80 0) (linesAndTests 75 0) := by
    refine ⟨rfl, fun category high low hhigh hlow => ?_, by decide +kernel⟩
    have hhigh' : (category, high) = ("lines", ⟨80, .atLeast⟩) := List.mem_singleton.1 hhigh
    have hlow' : (category, low) = ("lines", ⟨75, .atLeast⟩) := List.mem_singleton.1 hlow
    cases hhigh'
    cases hlow'
    decide +kernel
  exact ⟨hbefore, (violations_monotone improves_tested heases).2.2 hbefore⟩

end BuildPipeline.QualityGate
