import BuildPipeline.Proofs.GateCriteria
import Mathlib.Tactic.Linarith
import Mathlib.Tactic.Ring

/-! The value that is shown of a missed criterion: two decimals, near to the value that decided, and
below the threshold that was missed. -/
namespace BuildPipeline.QualityGate

/-- The number `r` has two decimals, none with two decimals is nearer to `a`, and of two equally
near ones it is the one away from zero. -/
structure RoundsTo (a r : Rat) : Prop where
  decimals : ∃ n : Int, r = n / 100
  nearest : ∀ k : Int, |r - a| ≤ |(k : Rat) / 100 - a|
  away : ∀ k : Int, |(k : Rat) / 100 - a| = |r - a| → |(k : Rat) / 100| ≤ |r|

theorem RoundsTo.neg {a r : Rat} (h : RoundsTo a r) : RoundsTo (-a) (-r) := by
  have hmirror (k : Int) : |(k : Rat) / 100 - -a| = |((-k : Int) : Rat) / 100 - a| := by
    rw [← abs_neg]
    congr 1
    push_cast
    ring
  have hself : |-r - -a| = |r - a| := by
    rw [← abs_neg]
    congr 1
    ring
  obtain ⟨n, hn⟩ := h.decimals
  refine ⟨⟨-n, by rw [hn]; push_cast; ring⟩, fun k => ?_, fun k hk => ?_⟩
  · rw [hself, hmirror]
    exact h.nearest (-k)
  · rw [hself, hmirror] at hk
    have haway := h.away (-k) hk
    rwa [Int.cast_neg, neg_div, abs_neg, ← abs_neg r] at haway

/-- Only zero lies half way between a number and its negative, and it is nearer itself. -/
theorem RoundsTo.unique {a r s : Rat} (hr : RoundsTo a r) (hs : RoundsTo a s) : s = r := by
  obtain ⟨n, rfl⟩ := hr.decimals
  obtain ⟨m, rfl⟩ := hs.decimals
  have hnear := le_antisymm (hr.nearest m) (hs.nearest n)
  have hsize := le_antisymm (hr.away m hnear.symm) (hs.away n hnear)
  obtain hsame | hopposite := abs_eq_abs.1 hsize
  · exact hsame
  · rw [hopposite] at hnear ⊢
    obtain heq | hneg := abs_eq_abs.1 hnear
    · linarith
    · have ha : a = 0 := by linarith
      have hzero := hr.nearest 0
      rw [ha, sub_zero, Int.cast_zero, zero_div, sub_zero, abs_zero] at hzero
      have hn := abs_nonpos_iff.1 hzero
      rw [hn, neg_zero]

/-! ### Rounding -/

theorem floor_bounds (x : Rat) : (x.floor : Rat) ≤ x ∧ x < x.floor + 1 := by
  have hlt : x < (x.floor + 1 : Int) := Rat.floor_lt_iff.1 (Int.lt_succ x.floor)
  exact ⟨Rat.le_floor_iff.1 le_rfl, by exact_mod_cast hlt⟩

theorem round2_of_nonneg {a : Rat} (h : 0 ≤ a) :
    round2 a = ((a * 100 + 1 / 2).floor : Rat) / 100 := by
  have hscaled : 0 ≤ a * 100 := by linarith
  change (if 0 ≤ a * 100 then ((a * 100 + 1 / 2).floor : Rat) else _) / 100 = _
  rw [if_pos hscaled]

theorem round2_neg (a : Rat) : round2 (-a) = -round2 a := by
  have hneg {b : Rat} (h : 0 < b) : round2 (-b) = -round2 b := by
    have hscaled : ¬ 0 ≤ -b * 100 := by linarith
    rw [round2_of_nonneg h.le]
    change (if 0 ≤ -b * 100 then _ else -((-(-b * 100) + 1 / 2).floor : Rat)) / 100 = _
    rw [if_neg hscaled, neg_mul, neg_neg, neg_div]
  rcases lt_trichotomy a 0 with h | rfl | h
  · have hb : 0 < -a := by linarith
    rw [← neg_neg (round2 (-a)), ← hneg hb, neg_neg]
  · decide +kernel
  · exact hneg h

theorem roundsTo_of_nonneg {a : Rat} (h : 0 ≤ a) : RoundsTo a (round2 a) := by
  rw [round2_of_nonneg h]
  obtain ⟨hle, hlt⟩ := floor_bounds (a * 100 + 1 / 2)
  have hfloor : 0 ≤ (a * 100 + 1 / 2).floor := Rat.le_floor_iff.2 (by push_cast; linarith)
  generalize (a * 100 + 1 / 2).floor = n at hle hlt hfloor ⊢
  have hnear : |(n : Rat) / 100 - a| ≤ 1 / 200 := abs_le.2 ⟨by linarith, by linarith⟩
  refine ⟨⟨n, rfl⟩, fun k => ?_, fun k hk => ?_⟩
  · rcases lt_trichotomy k n with hk | rfl | hk
    · have hstep : (k : Rat) + 1 ≤ n := by exact_mod_cast hk
      exact hnear.trans (le_abs.2 (.inr (by linarith)))
    · exact le_rfl
    · have hstep : (n : Rat) + 1 ≤ k := by exact_mod_cast hk
      exact hnear.trans (le_abs.2 (.inl (by linarith)))
  · -- the other candidate lies between zero and `n`, since beyond either end it is too far off
    rw [← hk] at hnear
    obtain ⟨hlow, hhigh⟩ := abs_le.1 hnear
    have hkn : k ≤ n := by
      by_contra hbeyond
      have hstep : (n : Rat) + 1 ≤ k := by exact_mod_cast not_le.1 hbeyond
      linarith
    have hk0 : 0 ≤ k := by
      by_contra hbelow
      have hstep : (k : Rat) + 1 ≤ 0 := by exact_mod_cast not_le.1 hbelow
      linarith
    have hkn' : (k : Rat) ≤ n := by exact_mod_cast hkn
    have hk0' : (0 : Rat) ≤ k := by exact_mod_cast hk0
    rw [abs_of_nonneg (by linarith), abs_of_nonneg (by linarith)]
    linarith

theorem roundsTo_round2 (a : Rat) : RoundsTo a (round2 a) := by
  rcases le_total 0 a with h | h
  · exact roundsTo_of_nonneg h
  · have hmirrored := (roundsTo_of_nonneg (neg_nonneg.2 h)).neg
    rwa [round2_neg, neg_neg, neg_neg] at hmirrored

/-- What is nearest is off by half of a hundredth at most. -/
theorem RoundsTo.abs_sub_le {a r : Rat} (h : RoundsTo a r) : |r - a| ≤ 1 / 200 := by
  obtain ⟨hlow, hhigh⟩ := floor_bounds (a * 100)
  -- one of the two neighbours on the grid is that near, and `r` is no farther off
  rcases le_total (a * 100) ((a * 100).floor + 1 / 2) with hhalf | hhalf
  · exact (h.nearest (a * 100).floor).trans (abs_le.2 ⟨by linarith, by linarith⟩)
  · refine (h.nearest ((a * 100).floor + 1)).trans ?_
    push_cast
    exact abs_le.2 ⟨by linarith, by linarith⟩

/-! ### What is shown of a missed criterion -/

/-- What a value `v` tells of the value `a` that missed the threshold `t`. -/
structure Tells (a t v : Rat) : Prop where
  below : v < t
  decimals : ∃ n : Int, v = n / 100
  near : |v - a| < 1 / 100
  rounded : ∃ r, (∀ s, RoundsTo a s ↔ s = r) ∧ (r < t → v = r)

theorem roundsTo_iff {a s : Rat} : RoundsTo a s ↔ s = round2 a :=
  ⟨fun h => (roundsTo_round2 a).unique h, fun h => h ▸ roundsTo_round2 a⟩

theorem shownBelow_eq (a t : Rat) :
    shownBelow a t = if t ≤ round2 a then ((a * 100).floor : Rat) / 100 else round2 a := by
  rw [shownBelow]
  by_cases h : t ≤ round2 a
  · rw [if_pos h, if_pos (show Arithmetic.atLeast (round2 a) t = true from decide_eq_true h)]
    rfl
  · rw [if_neg h, if_neg (by simpa [Arithmetic.atLeast] using h)]

theorem tells_shownBelow {a t : Rat} (h : a < t) : Tells a t (shownBelow a t) := by
  rw [shownBelow_eq]
  by_cases hreached : t ≤ round2 a
  · -- rounding would show the threshold as met, so the value is cut off instead
    rw [if_pos hreached]
    obtain ⟨hlow, hhigh⟩ := floor_bounds (a * 100)
    refine ⟨by linarith, ⟨_, rfl⟩, abs_lt.2 ⟨by linarith, by linarith⟩, round2 a,
      fun s => roundsTo_iff, fun hbelow => absurd hreached (not_le.2 hbelow)⟩
  · rw [if_neg hreached]
    have hround := roundsTo_round2 a
    exact ⟨not_le.1 hreached, hround.decimals, hround.abs_sub_le.trans_lt (by norm_num), round2 a,
      fun s => roundsTo_iff, fun _ => rfl⟩

namespace Violation
variable {α : Type} [Arithmetic α]

def shown : Violation α → α
  | .coverage _ shown _ | .passRate shown _ => shown

def threshold : Violation α → α
  | .coverage _ _ threshold | .passRate _ threshold => threshold

/-- The value that decided against the criterion. -/
def actual (metrics : SortedMap α) : Violation α → α
  | .coverage category _ _ => recorded metrics (Metric.coverage category)
  | .passRate _ _ => rawPassRate metrics

end Violation

/-- A violation shows its value as it is shown below its threshold, which it missed. -/
theorem shown_of_mem_violations {metrics : SortedMap Rat} {t : Thresholds Rat} {x : Violation Rat}
    (h : x ∈ violations metrics t) :
    x.actual metrics < x.threshold ∧ x.shown = shownBelow (x.actual metrics) x.threshold := by
  have hmissed {t : Threshold Rat} {actual : Rat} (h : ¬ isMet t actual = true) :
      actual < t.value := not_le.1 fun hle => h (isMet_iff_le.2 hle)
  rw [violations_eq, List.mem_append] at h
  obtain hcoverage | hrate := h
  · obtain ⟨e, he, rfl⟩ := List.mem_map.1 hcoverage
    obtain ⟨-, hunmet⟩ := List.mem_filter.1 he
    rw [Bool.not_eq_true'] at hunmet
    exact ⟨hmissed (ne_true_of_eq_false hunmet), rfl⟩
  · split at hrate
    · cases hrate
    · next hunmet =>
      obtain rfl := List.mem_singleton.1 hrate
      exact ⟨hmissed hunmet, rfl⟩

/-- A missed criterion is never shown as met. Of a value below its threshold a number below the
threshold is shown, of two decimals and less than a hundredth off, and it is the rounded value
where that is below the threshold too. Each violation of a gate shows its value so. -/
theorem missed_never_shown_as_met :
    (∀ a t : Rat, a < t → Tells a t (shownBelow a t)) ∧
    ∀ (metrics : SortedMap Rat) (t : Thresholds Rat), ∀ x ∈ violations metrics t,
      x.actual metrics < x.threshold ∧ x.shown = shownBelow (x.actual metrics) x.threshold ∧
        Tells (x.actual metrics) x.threshold x.shown := by
  refine ⟨fun a t h => tells_shownBelow h, fun metrics t x hx => ?_⟩
  obtain ⟨hmissed, hshown⟩ := shown_of_mem_violations hx
  exact ⟨hmissed, hshown, hshown ▸ tells_shownBelow hmissed⟩

/-- Rounding would show 79.996 as the threshold of 80, and a thousandth below zero as zero. -/
theorem nearly_met_shown :
    shownBelow (79996 / 1000 : Rat) 80 = 7999 / 100 ∧ Tells (79996 / 1000) 80 (7999 / 100) ∧
      shownBelow (-1 / 1000 : Rat) 0 = -1 / 100 ∧ Tells (-1 / 1000) 0 (-1 / 100) := by
  have hcovered : shownBelow (79996 / 1000 : Rat) 80 = 7999 / 100 := by decide +kernel
  have hnegative : shownBelow (-1 / 1000 : Rat) 0 = -1 / 100 := by decide +kernel
  refine ⟨hcovered, ?_, hnegative, ?_⟩
  · rw [← hcovered]
    exact missed_never_shown_as_met.1 _ _ (by norm_num)
  · rw [← hnegative]
    exact missed_never_shown_as_met.1 _ _ (by norm_num)

end BuildPipeline.QualityGate
