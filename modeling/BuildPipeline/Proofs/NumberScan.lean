import BuildPipeline.Proofs.Counts
import BuildPipeline.Scrape.Pattern
import Mathlib.Data.List.TakeWhile

/-! Numbers in a text: where each begins and ends, what its digits are worth, and that a count which
has been written is read as it was. -/
namespace BuildPipeline

/-! ### Classes of characters -/

namespace Text

/-- The code points of white space. -/
def blankCodes : List Nat :=
  List.range' 9 5 ++ [0x20, 0x85, 0xA0, 0x1680] ++ List.range' 0x2000 11 ++
    [0x2028, 0x2029, 0x202F, 0x205F, 0x3000]

theorem toNat_mem_blankCodes {c : Char} (h : isBlank c = true) : c.toNat ∈ blankCodes := by
  simp only [isBlank, Bool.or_eq_true, Bool.and_eq_true, decide_eq_true_eq, beq_iff_eq] at h
  simp only [blankCodes, List.mem_append, List.mem_range'_1, List.mem_cons, List.not_mem_nil,
    or_false]
  omega

theorem isDecimalDigit_of_isBlank {c : Char} (h : isBlank c = true) :
    isDecimalDigit c = false := by
  have hcodes : ∀ n ∈ blankCodes,
      (if n < 0x80 then decide (0x30 ≤ n) && decide (n ≤ 0x39)
        else digitZeros.any fun z => decide (z ≤ n) && decide (n ≤ z + 9)) = false := by
    decide
  exact hcodes _ (toNat_mem_blankCodes h)

theorem isBlank_of_isDecimalDigit {c : Char} (h : isDecimalDigit c = true) :
    isBlank c = false := by
  cases hblank : isBlank c with
  | false => rfl
  | true =>
    rw [isDecimalDigit_of_isBlank hblank] at h
    cases h

theorem isWordCharacter_of_isDigit {c : Char} (h : c.isDigit = true) :
    isWordCharacter c = true := by
  refine isWordCharacter_of_isAlphanum (by simp [Char.isAlphanum, h]) ?_
  simp only [Char.isDigit, Bool.and_eq_true, decide_eq_true_eq] at h
  have h2 : c.toNat ≤ 57 := h.2
  omega

theorem decimalValue?_eq (digits : List Char) :
    decimalValue? digits =
      if digits.all Char.isDigit then some (Nat.ofDigitChars 10 digits 0) else none := by
  have hnone (digits : List Char) : digits.foldl
      (fun value? c => value?.bind fun value =>
        if c.isDigit then some (value * 10 + (c.toNat - 48)) else none) none =
          (none : Option Nat) := by
    induction digits with
    | nil => rfl
    | cons c rest ih => exact ih
  have hfold (value : Nat) : digits.foldl
      (fun value? c => value?.bind fun value =>
        if c.isDigit then some (value * 10 + (c.toNat - 48)) else none) (some value) =
      if digits.all Char.isDigit then some (Nat.ofDigitChars 10 digits value) else none := by
    induction digits generalizing value with
    | nil => rfl
    | cons c rest ih =>
      rw [List.foldl_cons, Option.bind_some]
      cases hc : c.isDigit with
      | false => simp [hc, hnone]
      | true =>
        simp only [if_true, ih, List.all_cons, hc, Bool.true_and, Nat.ofDigitChars_eq_foldl,
          List.foldl_cons]
        rw [Nat.mul_comm]
        rfl
  exact hfold 0

end Text

namespace Scrape

open Text (isDecimalDigit)

/-! ### What digits are worth -/

/-- What a run of digits is worth: nothing if one of them is beyond ASCII or the number is beyond a
count. -/
def worth (digits : List Char) : Nat :=
  if digits.all Char.isDigit ∧ Nat.ofDigitChars 10 digits 0 < 2 ^ 64 then
    Nat.ofDigitChars 10 digits 0
  else 0

theorem worth_nil : worth [] = 0 := by decide

theorem count?_eq (digits : List Char) :
    count? digits = if digits.all Char.isDigit ∧ Nat.ofDigitChars 10 digits 0 < 2 ^ 64 then
      some (UInt64.ofNat (Nat.ofDigitChars 10 digits 0)) else none := by
  rw [count?, Text.decimalValue?_eq]
  by_cases hdigits : digits.all Char.isDigit = true
  · rw [if_pos hdigits, Option.bind_some, Count.ofNat?]
    simp only [hdigits, true_and]
    rfl
  · rw [if_neg hdigits, if_neg fun h => hdigits h.1]
    rfl

theorem toNat_getD_count? (digits : List Char) :
    ((count? digits).getD 0).toNat = worth digits := by
  rw [count?_eq, worth]
  split
  · next h =>
    rw [Option.getD_some, UInt64.toNat_ofNat']
    exact Nat.mod_eq_of_lt h.2
  · rfl

theorem count?_text (n : Count) : count? n.text.toList = some n := by
  have hall : n.text.toList.all Char.isDigit = true :=
    List.all_eq_true.2 fun _ => Count.isDigit_of_mem_text
  have hvalue : Nat.ofDigitChars 10 n.text.toList 0 = n.toNat := by
    rw [Count.toList_text]
    exact Nat.ofDigitChars_ten_toDigits
  rw [count?_eq, hvalue, if_pos ⟨hall, n.toNat_lt⟩]
  exact congrArg some UInt64.ofNat_toNat

theorem countOrZero_text (n : Count) : countOrZero (some n.text.toList) = n := by
  rw [countOrZero, Option.bind_some, count?_text]
  rfl

/-! ### Where numbers begin and end -/

def BeginsOther (text : List Char) : Prop := ∀ c ∈ text.head?, isDecimalDigit c = false

theorem beginsOther_of_head? {text : List Char} {c : Char} (h : text.head? = some c)
    (hc : isDecimalDigit c = false) : BeginsOther text := by
  intro d hd
  rw [h] at hd
  cases hd
  exact hc

theorem beginsOther_cons {c : Char} (h : isDecimalDigit c = false) (rest : List Char) :
    BeginsOther (c :: rest) :=
  beginsOther_of_head? rfl h

theorem beginsOther_nil : BeginsOther [] := by
  intro c hc
  cases hc

theorem beginsOther_dropWhile (text : List Char) : BeginsOther (text.dropWhile isDecimalDigit) := by
  induction text with
  | nil => exact beginsOther_nil
  | cons c rest ih =>
    cases hc : isDecimalDigit c with
    | true => rwa [List.dropWhile_cons_of_pos hc]
    | false =>
      rw [List.dropWhile_cons_of_neg (by simp [hc])]
      exact beginsOther_cons hc rest

theorem takeWhile_of_beginsOther {text : List Char} (h : BeginsOther text) :
    text.takeWhile isDecimalDigit = [] := by
  cases text with
  | nil => rfl
  | cons c rest => exact List.takeWhile_cons_of_neg (by simp [h c rfl])

theorem dropWhile_of_beginsOther {text : List Char} (h : BeginsOther text) :
    text.dropWhile isDecimalDigit = text := by
  cases text with
  | nil => rfl
  | cons c rest => exact List.dropWhile_cons_of_neg (by simp [h c rfl])

theorem takeWhile_digits {ds after : List Char} (hds : ∀ c ∈ ds, isDecimalDigit c = true)
    (h : BeginsOther after) : (ds ++ after).takeWhile isDecimalDigit = ds := by
  rw [List.takeWhile_append_of_pos hds, takeWhile_of_beginsOther h, List.append_nil]

theorem dropWhile_digits {ds after : List Char} (hds : ∀ c ∈ ds, isDecimalDigit c = true)
    (h : BeginsOther after) : (ds ++ after).dropWhile isDecimalDigit = after := by
  rw [List.dropWhile_append_of_pos hds, dropWhile_of_beginsOther h]

theorem numbers_nil : numbers [] = [] := by rw [numbers]

theorem numbers_cons_of_not {c : Char} (h : isDecimalDigit c = false) (rest : List Char) :
    numbers (c :: rest) = numbers rest := by
  rw [numbers, h]
  rfl

theorem isDecimalDigit_of_any {text : List Char} (h : text.any isDecimalDigit = false) {c : Char}
    (hc : c ∈ text) : isDecimalDigit c = false :=
  Bool.eq_false_iff.2 (List.any_eq_false.1 h c hc)

theorem numbers_append_of_not {before : List Char} (h : ∀ c ∈ before, isDecimalDigit c = false)
    (text : List Char) : numbers (before ++ text) = numbers text := by
  induction before with
  | nil => rfl
  | cons c rest ih =>
    obtain ⟨hc, hrest⟩ := List.forall_mem_cons.1 h
    rw [List.cons_append, numbers_cons_of_not hc, ih hrest]

theorem numbers_digits {ds after : List Char} (hne : ds ≠ [])
    (hds : ∀ c ∈ ds, isDecimalDigit c = true) (h : BeginsOther after) :
    numbers (ds ++ after) = ⟨ds, after⟩ :: numbers after := by
  cases ds with
  | nil => exact absurd rfl hne
  | cons c rest =>
    obtain ⟨hc, hrest⟩ := List.forall_mem_cons.1 hds
    rw [List.cons_append, numbers]
    simp only [hc, if_true, takeWhile_digits hrest h, dropWhile_digits hrest h]

/-- The numbers of a text in which digits stand before something else: some that end earlier in the
text, then the one that ends with these digits, then those after it. -/
theorem numbers_append_digits (before : List Char) {ds after : List Char} (hne : ds ≠ [])
    (hds : ∀ c ∈ ds, isDecimalDigit c = true) (h : BeginsOther after) :
    ∃ earlier front, numbers (before ++ (ds ++ after)) =
        earlier ++ ⟨front ++ ds, after⟩ :: numbers after ∧
      front <:+ before ∧ (∀ c ∈ front, isDecimalDigit c = true) ∧
      ∀ n ∈ earlier, ∃ between, between ≠ [] ∧ between <:+ before ∧ BeginsOther between ∧
        n.after = between ++ (ds ++ after) := by
  fun_induction numbers before with
  | case1 => exact ⟨[], [], numbers_digits hne hds h, List.nil_suffix, by simp, by simp⟩
  | case2 c rest hc left ih =>
    obtain ⟨run, hrun, hrundigits, hsplit⟩ : ∃ run, run ≠ [] ∧
        (∀ d ∈ run, isDecimalDigit d = true) ∧ c :: rest = run ++ left := by
      refine ⟨c :: rest.takeWhile isDecimalDigit, by simp, ?_, ?_⟩
      · exact List.forall_mem_cons.2 ⟨hc, fun _ => List.mem_takeWhile_imp⟩
      · rw [List.cons_append, List.takeWhile_append_dropWhile]
    rw [hsplit]
    by_cases hleft : left = []
    · -- digits stand up to the seam, so that the two runs are one
      rw [hleft, List.append_nil, ← List.append_assoc]
      have hboth := List.forall_mem_append.2 ⟨hrundigits, hds⟩
      exact ⟨[], run, numbers_digits (by simp [hrun]) hboth h, List.suffix_rfl, hrundigits, by simp⟩
    · have hbegins : BeginsOther left := beginsOther_dropWhile rest
      have hseam : BeginsOther (left ++ (ds ++ after)) := by
        cases hl : left with
        | nil => exact absurd hl hleft
        | cons x more => exact beginsOther_cons (hbegins x (by rw [hl]; rfl)) _
      obtain ⟨earlier, front, hnumbers, hfront, hdigits, hearlier⟩ := ih
      refine ⟨⟨run, left ++ (ds ++ after)⟩ :: earlier, front, ?_,
        hfront.trans (List.suffix_append run left), hdigits, ?_⟩
      · rw [List.append_assoc, numbers_digits hrun hrundigits hseam, hnumbers, List.cons_append]
      · refine List.forall_mem_cons.2
          ⟨⟨left, hleft, List.suffix_append run left, hbegins, rfl⟩, fun n hn => ?_⟩
        obtain ⟨between, hbetween, hsuffix, hother, heq⟩ := hearlier n hn
        exact ⟨between, hbetween, hsuffix.trans (List.suffix_append run left), hother, heq⟩
  | case3 c rest hc ih =>
    obtain ⟨earlier, front, hnumbers, hfront, hdigits, hearlier⟩ := ih
    have hskip := numbers_cons_of_not (Bool.eq_false_iff.2 hc) (rest ++ (ds ++ after))
    refine ⟨earlier, front, hskip.trans hnumbers, hfront.trans (List.suffix_cons c rest), hdigits,
      fun n hn => ?_⟩
    obtain ⟨between, hbetween, hsuffix, hbegins, heq⟩ := hearlier n hn
    exact ⟨between, hbetween, hsuffix.trans (List.suffix_cons c rest), hbegins, heq⟩

end Scrape
end BuildPipeline
