import BuildPipeline.Proofs.NumberScan
import BuildPipeline.Scrape.Tests

/-! The counts of a test runner's summaries, told place by place: wherever a word stands in the
output, what counts is the number before the white space before it. -/
namespace BuildPipeline.Scrape

open Text (isBlank isDecimalDigit)

/-- The digits right before the white space at the end of a text that is given backwards. There are
none if it does not end with white space. -/
def digitsBehind (behind : List Char) : List Char :=
  if (behind.takeWhile isBlank).isEmpty then []
  else ((behind.dropWhile isBlank).takeWhile isDecimalDigit).reverse

/-- The numbers before all places of a text at which a word begins, added up. -/
def sumAtPlaces (noun text : List Char) : Nat :=
  ((List.range text.length).map fun i =>
    if noun <+: text.drop i then worth (digitsBehind (text.take i).reverse) else 0).sum

def sumFrom (noun behind rest : List Char) : Nat :=
  ((List.range rest.length).map fun i =>
    if noun <+: rest.drop i then worth (digitsBehind ((rest.take i).reverse ++ behind)) else 0).sum

/-- What the digits behind are still worth once the word is found after white space. -/
def pending (noun behind rest : List Char) : Nat :=
  if noun <+: rest.dropWhile isBlank then
    worth (digitsBehind ((rest.takeWhile isBlank).reverse ++ behind))
  else 0

theorem sumAtPlaces_eq (noun text : List Char) : sumAtPlaces noun text = sumFrom noun [] text := by
  simp [sumAtPlaces, sumFrom]

theorem sumFrom_cons (noun behind : List Char) (c : Char) (rest : List Char) :
    sumFrom noun behind (c :: rest) =
      (if noun <+: c :: rest then worth (digitsBehind behind) else 0) +
        sumFrom noun (c :: behind) rest := by
  rw [sumFrom, List.length_cons, List.range_succ_eq_map, List.map_cons, List.sum_cons,
    List.map_map]
  simp only [sumFrom, Function.comp_def, List.drop_zero, List.take_zero, List.reverse_nil,
    List.nil_append, Nat.succ_eq_add_one, List.drop_succ_cons, List.take_succ_cons,
    List.reverse_cons, List.append_assoc, List.singleton_append]

section Word
variable {p : Char} {word behind rest : List Char}

/-- Places at which the word cannot begin do not count. -/
theorem sumFrom_append {before : List Char} (h : p ∉ before) (behind rest : List Char) :
    sumFrom (p :: word) behind (before ++ rest) =
      sumFrom (p :: word) (before.reverse ++ behind) rest := by
  induction before generalizing behind with
  | nil => rfl
  | cons c before ih =>
    rw [List.mem_cons, not_or] at h
    have hno : ¬ p :: word <+: c :: (before ++ rest) := fun hpre =>
      h.1 (List.cons_prefix_cons.1 hpre).1
    rw [List.cons_append, sumFrom_cons, if_neg hno, Nat.zero_add, ih h.2]
    simp

/-- Behind white space are the digits that stand before it. -/
theorem digitsBehind_append {blanks : List Char} (hblanks : ∀ c ∈ blanks, isBlank c = true)
    (hbehind : ∀ c ∈ behind.head?, isBlank c = false) :
    digitsBehind (blanks ++ behind) =
      if blanks = [] then [] else (behind.takeWhile isDecimalDigit).reverse := by
  have htake : behind.takeWhile isBlank = [] := by
    cases behind with
    | nil => rfl
    | cons c behind => exact List.takeWhile_cons_of_neg (by simp [hbehind c rfl])
  have hdrop : behind.dropWhile isBlank = behind := by
    cases behind with
    | nil => rfl
    | cons c behind => exact List.dropWhile_cons_of_neg (by simp [hbehind c rfl])
  rw [digitsBehind, List.takeWhile_append_of_pos hblanks, htake,
    List.dropWhile_append_of_pos hblanks, hdrop]
  simp

theorem spaced_isSome_iff {noun : String} {text : List Char} :
    (spaced noun text).isSome = true ↔
      text.takeWhile isBlank ≠ [] ∧ noun.toList <+: text.dropWhile isBlank := by
  cases text with
  | nil => simp [spaced, blanks]
  | cons c rest =>
    cases hc : isBlank c <;> simp [spaced, blanks, exactly, hc]

/-- Digits behind another character than white space and digits are of no more use. -/
theorem pending_cons_of_not {c : Char} (hblank : isBlank c = false)
    (hdigit : isDecimalDigit c = false) (noun behind rest : List Char) :
    pending noun (c :: behind) rest = 0 := by
  have hnone : digitsBehind ((rest.takeWhile isBlank).reverse ++ c :: behind) = [] := by
    rw [digitsBehind_append (fun _ hd => List.mem_takeWhile_imp (List.mem_reverse.1 hd))
      fun d hd => by cases hd; exact hblank]
    simp [hdigit]
  rw [pending, hnone, worth_nil, ite_self]

theorem pending_of_not_isBlank {c : Char} (hc : isBlank c = false) (noun behind rest : List Char) :
    pending noun behind (c :: rest) =
      if noun <+: c :: rest then worth (digitsBehind behind) else 0 := by
  simp [pending, hc]

theorem pending_number {noun : String} {run after : List Char} (hne : run ≠ [])
    (hrun : ∀ d ∈ run, isDecimalDigit d = true) (hbehind : BeginsOther behind) :
    pending noun.toList (run.reverse ++ behind) after =
      if (spaced noun after).isSome then worth run else 0 := by
  have hreverse : ∀ d ∈ run.reverse, isDecimalDigit d = true := fun d hd =>
    hrun d (List.mem_reverse.1 hd)
  have hhead : ∀ d ∈ (run.reverse ++ behind).head?, isBlank d = false := by
    intro d hd
    rw [List.head?_append, List.head?_eq_some_head (by simpa using hne), Option.some_or] at hd
    cases hd
    exact Text.isBlank_of_isDecimalDigit (hreverse _ (List.head_mem _))
  rw [pending, digitsBehind_append
    (fun _ hd => List.mem_takeWhile_imp (List.mem_reverse.1 hd)) hhead,
    takeWhile_digits hreverse hbehind, List.reverse_reverse]
  by_cases hnoun : noun.toList <+: after.dropWhile isBlank
  · by_cases hblanks : after.takeWhile isBlank = []
    · have hspaced : ¬ (spaced noun after).isSome = true := fun h =>
        (spaced_isSome_iff.1 h).1 hblanks
      rw [if_pos hnoun, if_pos (by simpa using hblanks), if_neg hspaced, worth_nil]
    · rw [if_pos hnoun, if_neg (by simpa using hblanks),
        if_pos (spaced_isSome_iff.2 ⟨hblanks, hnoun⟩)]
  · have hspaced : ¬ (spaced noun after).isSome = true := fun h =>
      hnoun (spaced_isSome_iff.1 h).2
    rw [if_neg hnoun, if_neg hspaced]

/-- The numbers of the rest are those before the places of the rest. The digits behind may still be
the number before the first of them. -/
theorem sumFrom_eq {noun : String} (hnoun : noun.toList = p :: word) (hblank : isBlank p = false)
    (hdigit : isDecimalDigit p = false) (hseam : BeginsOther behind ∨ BeginsOther rest) :
    sumFrom noun.toList behind rest = pending noun.toList behind rest + ((numbers rest).map fun n =>
      if (spaced noun n.after).isSome then worth n.digits else 0).sum := by
  fun_induction numbers rest generalizing behind with
  | case1 => simp [sumFrom, pending, hnoun]
  | case2 c rest hc after =>
    rename_i ih
    have hbehind : BeginsOther behind := by
      obtain hbehind | hrest := hseam
      · exact hbehind
      · rw [hrest c rfl] at hc
        cases hc
    have hrun : ∀ d ∈ c :: rest.takeWhile isDecimalDigit, isDecimalDigit d = true :=
      List.forall_mem_cons.2 ⟨hc, fun _ => List.mem_takeWhile_imp⟩
    have hp : p ∉ c :: rest.takeWhile isDecimalDigit := fun hmem => by
      rw [hrun p hmem] at hdigit
      cases hdigit
    have hpc : ¬ noun.toList <+: c :: rest := fun hpre => by
      rw [hnoun] at hpre
      exact hp ((List.cons_prefix_cons.1 hpre).1 ▸ List.mem_cons_self)
    have hskip : sumFrom noun.toList behind (c :: rest) =
        sumFrom noun.toList ((c :: rest.takeWhile isDecimalDigit).reverse ++ behind) after := by
      rw [hnoun, ← sumFrom_append hp, List.cons_append, List.takeWhile_append_dropWhile]
    rw [pending_of_not_isBlank (Text.isBlank_of_isDecimalDigit hc), if_neg hpc, Nat.zero_add,
      List.map_cons, List.sum_cons, ← pending_number (by simp) hrun hbehind, hskip]
    exact ih (.inr (beginsOther_dropWhile rest))
  | case3 c rest hc ih =>
    rw [Bool.not_eq_true] at hc
    rw [hnoun, sumFrom_cons, ← hnoun, ih (.inl (beginsOther_cons hc behind)), ← Nat.add_assoc]
    congr 1
    by_cases hcblank : isBlank c = true
    · have hpc : p ≠ c := fun h => by rw [h, hcblank] at hblank; cases hblank
      simp [pending, hnoun, hcblank, List.cons_prefix_cons, hpc]
    · rw [Bool.not_eq_true] at hcblank
      rw [pending_cons_of_not hcblank hc, pending_of_not_isBlank hcblank, Nat.add_zero]

end Word

theorem sumBefore_eq {noun : String} {p : Char} {word : List Char} (hnoun : noun.toList = p :: word)
    (hblank : isBlank p = false) (hdigit : isDecimalDigit p = false) (text : List Char) :
    sumBefore noun text = .saturate (sumAtPlaces noun.toList text) := by
  have hpending : pending noun.toList [] text = 0 := by
    have hnone := @digitsBehind_append [] (text.takeWhile isBlank).reverse
      (fun _ hd => List.mem_takeWhile_imp (List.mem_reverse.1 hd)) (by simp)
    rw [pending, hnone, List.takeWhile_nil, List.reverse_nil, ite_self, worth_nil, ite_self]
  rw [sumAtPlaces_eq, sumFrom_eq hnoun hblank hdigit (.inl beginsOther_nil), hpending,
    Nat.zero_add, sumBefore, Count.sum_eq_saturate]
  congr 1
  induction numbers text with
  | nil => rfl
  | cons n rest ih =>
    rw [List.map_cons, List.sum_cons, ← ih, List.filterMap_cons]
    by_cases hspaced : (spaced noun n.after).isSome = true
    · rw [if_pos hspaced, if_pos hspaced, ← toNat_getD_count?]
      cases count? n.digits <;> simp
    · rw [if_neg hspaced, if_neg hspaced, Nat.zero_add]

/-- The counts of summaries in any output, place by place. -/
theorem mocha_eq (text : String) :
    let counted (noun : String) : Count := .saturate (sumAtPlaces noun.toList text.toList)
    mocha text = {
      passed := counted "passing"
      failed := counted "failing"
      skipped := counted "pending"
      total := .saturate ((counted "passing").toNat + (counted "failing").toNat +
        (counted "pending").toNat) } := by
  intro counted
  have hpassing : sumBefore "passing" text.toList = counted "passing" :=
    sumBefore_eq (p := 'p') rfl (by decide) (by decide) _
  have hfailing : sumBefore "failing" text.toList = counted "failing" :=
    sumBefore_eq (p := 'f') rfl (by decide) (by decide) _
  have hpending : sumBefore "pending" text.toList = counted "pending" :=
    sumBefore_eq (p := 'p') rfl (by decide) (by decide) _
  rw [mocha, hpassing, hfailing, hpending, TestCounts.ofParts, Count.add_add]

/-- Numbers before other words, right before the word, or with digits beyond ASCII do not count. -/
example : mocha "10 passing (4 s)\n2\n\t passing, 7passing, 1٣ passing, 3 pending" =
    ⟨12, 0, 3, 15⟩ := by decide +kernel

end BuildPipeline.Scrape
