import BuildPipeline.Count
import BuildPipeline.Text.DecimalDigit
import Mathlib.Algebra.GroupWithZero.Nat

/-! Counts: sums of many that stop at the largest one, and the digits that counts are written in. -/
namespace BuildPipeline.Count

/-- A sum that stops at the largest count is the whole sum, stopped there. -/
theorem sum_saturate (sizes : List Nat) :
    Count.sum (sizes.map Count.saturate) = Count.saturate sizes.sum := by
  have hadd (a b : Nat) : Count.add (.saturate a) (.saturate b) = .saturate (a + b) := by
    rw [← UInt64.toNat_inj, Count.toNat_add, Count.toNat_saturate, Count.toNat_saturate,
      Count.toNat_saturate]
    omega
  have hfold (a : Nat) : (sizes.map Count.saturate).foldl Count.add (.saturate a) =
      Count.saturate (a + sizes.sum) := by
    induction sizes generalizing a with
    | nil => rfl
    | cons n rest ih =>
      rw [List.map_cons, List.foldl_cons, hadd, ih, List.sum_cons, Nat.add_assoc]
  have hzero := hfold 0
  rwa [Nat.zero_add] at hzero

theorem saturate_toNat (n : Count) : saturate n.toNat = n := by
  have hlt := n.toNat_lt
  rw [← UInt64.toNat_inj, toNat_saturate, bound]
  omega

theorem sum_eq_saturate (counts : List Count) :
    Count.sum counts = saturate (counts.map UInt64.toNat).sum := by
  rw [← sum_saturate, List.map_map]
  simp [Function.comp_def, saturate_toNat]

/-- A sum of three may be stopped at the end only. -/
theorem add_add (a b c : Count) :
    (a.add b).add c = saturate (a.toNat + b.toNat + c.toNat) := by
  rw [← UInt64.toNat_inj, toNat_add, toNat_add, toNat_saturate]
  omega

theorem toList_text (n : Count) : n.text.toList = Nat.toDigits 10 n.toNat := by
  simp [text]

theorem isDigit_of_mem_text {n : Count} {c : Char} (h : c ∈ n.text.toList) : c.isDigit = true :=
  Nat.isDigit_of_mem_toDigits (by decide) (by decide) (toList_text n ▸ h)

theorem isDecimalDigit_of_mem_text {n : Count} {c : Char} (h : c ∈ n.text.toList) :
    Text.isDecimalDigit c = true :=
  Text.isDecimalDigit_of_isDigit (isDigit_of_mem_text h)

theorem toList_text_ne_nil (n : Count) : n.text.toList ≠ [] := by
  rw [toList_text]
  exact Nat.toDigits_ne_nil

theorem toList_text_eq_cons (n : Count) :
    ∃ d ds, n.text.toList = d :: ds ∧ Text.isDecimalDigit d = true := by
  obtain ⟨d, ds, h⟩ := List.exists_cons_of_ne_nil (toList_text_ne_nil n)
  exact ⟨d, ds, h, isDecimalDigit_of_mem_text (h ▸ List.mem_cons_self)⟩

end BuildPipeline.Count
