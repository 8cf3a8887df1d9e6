import BuildPipeline.Json.Document
import BuildPipeline.Json.Printer

/-! Numbers of documents, written and read. A whole number within a machine word is read as it was
written. A double is written with a point or an exponent, so that it is never read as a whole
number. -/
namespace BuildPipeline.Json

open Decimal (signed)

theorem isDigit_of_mem_toDigits {c : Char} {n : Nat} (h : c ∈ Nat.toDigits 10 n) :
    isDigit c = true := by
  have hc := Nat.isDigit_of_mem_toDigits (by decide) (by decide) h
  simpa [isDigit, Char.isDigit, Char.le_def] using hc

theorem ne_minus_of_isDigit {c : Char} (h : isDigit c = true) : c ≠ '-' := by
  rintro rfl
  exact absurd h (by decide)

/-! ### Whole numbers -/

theorem digitsValue_toDigits (n : Nat) : digitsValue (Nat.toDigits 10 n) = n := by
  have hfold := Nat.ofDigitChars_ten_toDigits (n := n)
  rw [Nat.ofDigitChars_eq_foldl] at hfold
  have hstep : (fun (n : Nat) (c : Char) => n * 10 + digitValue c) =
      fun n c => 10 * n + (c.toNat - '0'.toNat) := by
    funext n c
    rw [Nat.mul_comm, digitValue]
  rw [digitsValue, hstep]
  exact hfold

theorem digitChar_eq_zero : ∀ n < 10, n.digitChar = '0' → n = 0 := by decide

theorem eq_zero_of_head?_toDigits {n : Nat} (h : (Nat.toDigits 10 n).head? = some '0') :
    n = 0 := by
  induction n using Nat.strongRecOn with
  | ind n ih =>
    by_cases hn : n < 10
    · rw [Nat.toDigits_of_lt_base hn] at h
      exact digitChar_eq_zero n hn (by simpa using h)
    · rw [Nat.toDigits_of_base_le (by decide) (by omega)] at h
      have hhead : (Nat.toDigits 10 (n / 10)).head? = some '0' := by
        cases hds : Nat.toDigits 10 (n / 10) with
        | nil => exact absurd hds Nat.toDigits_ne_nil
        | cons d ds => simpa [hds] using h
      have hzero := ih (n / 10) (by omega) hhead
      omega

/-- What is read once the sign is known. -/
def readUnsigned (negative : Bool) (text : List Char) : Option Numeral :=
  let whole := text.takeWhile isDigit
  if whole.isEmpty || (whole.head? == some '0' && whole.length != 1) then none
  else Numeral.readTail negative whole (text.dropWhile isDigit)

theorem read_minus (rest : List Char) :
    Numeral.read ('-' :: rest) = readUnsigned true rest := rfl

theorem read_of_head?_ne {text : List Char} (h : text.head? ≠ some '-') :
    Numeral.read text = readUnsigned false text := by
  unfold Numeral.read
  split
  next negative rest hsign =>
    split at hsign
    · exact absurd rfl h
    · cases hsign
      rfl

theorem readUnsigned_digits {ds : List Char} (hdigits : ∀ c ∈ ds, isDigit c = true) (hne : ds ≠ [])
    (hzero : ds.head? = some '0' → ds.length = 1) (negative : Bool) :
    readUnsigned negative ds = some ⟨negative, ds, none, none⟩ := by
  have htake : (ds ++ []).takeWhile isDigit = ds ++ [] := List.takeWhile_append_of_pos hdigits
  have hdrop : (ds ++ []).dropWhile isDigit = [] := List.dropWhile_append_of_pos hdigits
  rw [List.append_nil] at htake hdrop
  have hguard : (ds.isEmpty || (ds.head? == some '0' && ds.length != 1)) = false := by
    by_cases hhead : ds.head? = some '0'
    · simp [hne, hzero hhead]
    · simp [hne, hhead]
  simp only [readUnsigned, htake, hdrop, hguard, Bool.false_eq_true, if_false, Numeral.readTail]

theorem read_toDigits (negative : Bool) (n : Nat) :
    Numeral.read (signed negative (Nat.toDigits 10 n)) =
      some ⟨negative, Nat.toDigits 10 n, none, none⟩ := by
  have hdigits : ∀ c ∈ Nat.toDigits 10 n, isDigit c = true := fun c hc =>
    isDigit_of_mem_toDigits hc
  have hzero (h : (Nat.toDigits 10 n).head? = some '0') : (Nat.toDigits 10 n).length = 1 := by
    rw [eq_zero_of_head?_toDigits h]
    rfl
  have hunsigned := readUnsigned_digits hdigits Nat.toDigits_ne_nil hzero
  cases negative with
  | true => exact (read_minus _).trans (hunsigned true)
  | false =>
    have hhead : (Nat.toDigits 10 n).head? ≠ some '-' := fun h =>
      ne_minus_of_isDigit (hdigits _ (List.mem_of_head? h)) rfl
    exact (read_of_head?_ne hhead).trans (hunsigned false)

/-- Numbers that one machine word can hold, signed or not. -/
def FitsWord (n : Int) : Prop := -0x8000000000000000 ≤ n ∧ n < 0x10000000000000000

theorem length_toDigits_le {n : Nat} (h : n < Numeral.wordBound) :
    (Nat.toDigits 10 n).length ≤ Numeral.wordDigits :=
  (Nat.length_toDigits_le_iff (by decide) (by decide)).2 (Nat.lt_trans h (by decide))

theorem integer?_toDigits {n : Nat} (h : n < Numeral.wordBound) (negative : Bool) :
    Numeral.integer? ⟨negative, Nat.toDigits 10 n, none, none⟩ =
      if negative then
        if 1 ≤ n ∧ n ≤ 0x8000000000000000 then some (Int.negOfNat n) else none
      else some n := by
  have hlength := length_toDigits_le h
  simp [Numeral.integer?, Numeral.isPlainWhole, List.take_of_length_le hlength,
    digitsValue_toDigits, Nat.not_lt.2 hlength, h]

theorem read_printInteger {n : Int} (h : FitsWord n) :
    (Numeral.read (printInteger n)).map Numeral.toJson = some (.integer n) := by
  obtain ⟨hlow, hhigh⟩ := h
  cases n with
  | ofNat k =>
    have hk : k < Numeral.wordBound := Int.ofNat_lt.1 hhigh
    have hread : Numeral.read (printInteger (.ofNat k)) = _ := read_toDigits false k
    rw [hread, Option.map_some, Numeral.toJson, integer?_toDigits hk]
    rfl
  | negSucc k =>
    have hk : k + 1 < Numeral.wordBound := by simp only [Numeral.wordBound]; omega
    have hsmall : 1 ≤ k + 1 ∧ k + 1 ≤ 0x8000000000000000 := by omega
    have hread : Numeral.read (printInteger (.negSucc k)) = _ := read_toDigits true (k + 1)
    rw [hread, Option.map_some, Numeral.toJson, integer?_toDigits hk, if_pos rfl, if_pos hsmall]
    rfl

/-! ### Doubles -/

theorem readTail_isPlainWhole {negative : Bool} {whole rest : List Char} {n : Numeral}
    (h : Numeral.readTail negative whole rest = some n) (hn : n.isPlainWhole = true) :
    rest = [] := by
  unfold Numeral.readTail at h
  split at h
  · rfl
  · simp only [Option.ite_none_left_eq_some] at h
    obtain ⟨-, h⟩ := h
    split at h
    · simp only [Option.some.injEq] at h
      simp [← h, Numeral.isPlainWhole] at hn
    · simp only [Option.ite_none_right_eq_some, Option.map_eq_some_iff] at h
      obtain ⟨-, e, -, rfl⟩ := h
      simp [Numeral.isPlainWhole] at hn
  · simp only [Option.ite_none_right_eq_some, Option.map_eq_some_iff] at h
    obtain ⟨-, e, -, rfl⟩ := h
    simp [Numeral.isPlainWhole] at hn

theorem readUnsigned_isPlainWhole {negative : Bool} {text : List Char} {n : Numeral}
    (h : readUnsigned negative text = some n) (hn : n.isPlainWhole = true) :
    ∀ c ∈ text, isDigit c = true := by
  simp only [readUnsigned, Option.ite_none_left_eq_some] at h
  have hdrop := readTail_isPlainWhole h.2 hn
  rw [← List.takeWhile_append_dropWhile (p := isDigit) (l := text), hdrop, List.append_nil]
  exact List.all_eq_true.1 List.all_takeWhile

theorem isDigit_of_isPlainWhole {text : List Char} {n : Numeral}
    (h : Numeral.read text = some n) (hn : n.isPlainWhole = true) :
    ∀ c ∈ text, isDigit c = true ∨ c = '-' := by
  by_cases hminus : text.head? = some '-'
  · obtain ⟨rest, rfl⟩ := List.head?_eq_some_iff.1 hminus
    rw [read_minus] at h
    intro c hc
    exact (List.mem_cons.1 hc).symm.imp (readUnsigned_isPlainWhole h hn c) id
  · rw [read_of_head?_ne hminus] at h
    exact fun c hc => .inl (readUnsigned_isPlainWhole h hn c hc)

/-! ### Texts that are scanned as one number -/

open Scanner (continuesNumber)

theorem continuesNumber_of_isDigit {c : Char} (h : isDigit c = true) :
    continuesNumber c = true := by
  simp [continuesNumber, h]

structure NumberText (text : List Char) : Prop where
  start : ∃ c rest, text = c :: rest ∧ (isDigit c = true ∨ c = '-')
  within : ∀ c ∈ text, continuesNumber c = true

theorem numberText_signed {ds more : List Char} (hne : ds ≠ [])
    (hdigits : ∀ c ∈ ds, isDigit c = true) (hmore : ∀ c ∈ more, continuesNumber c = true)
    (negative : Bool) : NumberText (signed negative (ds ++ more)) := by
  have hwithin : ∀ c ∈ ds ++ more, continuesNumber c = true := fun c hc =>
    (List.mem_append.1 hc).elim (fun h => continuesNumber_of_isDigit (hdigits c h)) (hmore c)
  cases negative with
  | true =>
    refine ⟨⟨'-', ds ++ more, rfl, .inr rfl⟩, fun c hc => ?_⟩
    rcases List.mem_cons.1 hc with rfl | hc
    · rfl
    · exact hwithin c hc
  | false =>
    cases ds with
    | nil => exact absurd rfl hne
    | cons d ds => exact ⟨⟨d, ds ++ more, rfl, .inl (hdigits d List.mem_cons_self)⟩, hwithin⟩

theorem numberText_printInteger (n : Int) : NumberText (printInteger n) := by
  have hsigned (k : Nat) (negative : Bool) : NumberText (signed negative (Nat.toDigits 10 k)) := by
    have htext : NumberText (signed negative (Nat.toDigits 10 k ++ [])) :=
      numberText_signed Nat.toDigits_ne_nil (fun c hc => isDigit_of_mem_toDigits hc) (by simp) _
    rwa [List.append_nil] at htext
  cases n with
  | ofNat k => exact hsigned k false
  | negSucc k => exact hsigned (k + 1) true

theorem continuesNumber_fraction {ds : List Char} (h : ∀ c ∈ ds, isDigit c = true) :
    ∀ c ∈ '.' :: ds, continuesNumber c = true := by
  intro c hc
  rcases List.mem_cons.1 hc with rfl | hc
  · rfl
  · exact continuesNumber_of_isDigit (h c hc)

/-- Digits, and after them a point or an exponent. -/
def DoubleText (text : List Char) : Prop :=
  ∃ ds more, text = ds ++ more ∧ ds ≠ [] ∧ (∀ c ∈ ds, isDigit c = true) ∧
    (∀ c ∈ more, continuesNumber c = true) ∧ ('.' ∈ more ∨ 'e' ∈ more)

section Forms
open Decimal (Scaled digitsOf zeros positional withPoint scientific)

theorem isDigit_of_mem_zeros {c : Char} {n : Nat} (h : c ∈ zeros n) : isDigit c = true := by
  rw [List.eq_of_mem_replicate h]
  rfl

theorem isDigit_of_mem_digitsOf {c : Char} {n : Nat} (h : c ∈ digitsOf n) : isDigit c = true :=
  isDigit_of_mem_toDigits h

theorem doubleText_withPoint (s : Scaled) : DoubleText (withPoint s) := by
  have hne : digitsOf s.digits ≠ [] := Nat.toDigits_ne_nil
  unfold withPoint positional
  split
  · refine ⟨digitsOf s.digits ++ zeros s.exponent.natAbs, ['.', '0'], rfl, by simp [hne], ?_,
      continuesNumber_fraction (List.forall_mem_singleton.2 rfl), by decide⟩
    exact fun c hc =>
      (List.mem_append.1 hc).elim isDigit_of_mem_digitsOf isDigit_of_mem_zeros
  · simp only
    split
    next hplaces =>
      refine ⟨_, _, rfl, ?_, ?_, continuesNumber_fraction ?_, .inl List.mem_cons_self⟩
      · simp only [ne_eq, List.take_eq_nil_iff, hne, or_false]
        omega
      · exact fun c hc => isDigit_of_mem_digitsOf (List.mem_of_mem_take hc)
      · exact fun c hc => isDigit_of_mem_digitsOf (List.mem_of_mem_drop hc)
    · refine ⟨['0'], _, rfl, by decide, List.forall_mem_singleton.2 rfl,
        continuesNumber_fraction ?_, .inl List.mem_cons_self⟩
      exact fun c hc =>
        (List.mem_append.1 hc).elim isDigit_of_mem_zeros isDigit_of_mem_digitsOf

theorem doubleText_scientific (s : Scaled) : DoubleText (scientific s) := by
  have hne : digitsOf s.digits ≠ [] := Nat.toDigits_ne_nil
  have hpoint : ∀ c ∈ (if 1 < (digitsOf s.digits).length then '.' :: (digitsOf s.digits).drop 1
      else []), continuesNumber c = true := by
    split
    · exact continuesNumber_fraction fun c hc => isDigit_of_mem_digitsOf (List.mem_of_mem_drop hc)
    · simp
  have hsign : continuesNumber (if Decimal.leadingExponent s < 0 then '-' else '+') = true := by
    split <;> rfl
  refine ⟨(digitsOf s.digits).take 1, _, List.append_assoc .., by simp [hne], ?_, ?_,
    .inr (by simp)⟩
  · exact fun c hc => isDigit_of_mem_digitsOf (List.mem_of_mem_take hc)
  · intro c hc
    rcases List.mem_append.1 hc with hc | hc
    · exact hpoint c hc
    rcases List.mem_cons.1 hc with rfl | hc
    · rfl
    rcases List.mem_cons.1 hc with rfl | hc
    · exact hsign
    · exact continuesNumber_of_isDigit (isDigit_of_mem_digitsOf hc)

end Forms

theorem exists_printDouble {x : Float} (h : Decimal.isFinite x = true) :
    ∃ negative text, printDouble x = signed negative text ∧ DoubleText text := by
  unfold Decimal.isFinite at h
  unfold printDouble Decimal.document?
  split at h
  next negative m e hx =>
    rw [hx]
    cases m with
    | zero =>
      refine ⟨negative, ['0', '.', '0'], ?_, ['0'], ['.', '0'], rfl, by decide,
        List.forall_mem_singleton.2 rfl, List.all_eq_true.1 rfl, by decide⟩
      cases negative <;> rfl
    | succ m =>
      refine ⟨negative, _, by simp only [String.toList_ofList]; rfl, ?_⟩
      split
      · exact doubleText_withPoint _
      · exact doubleText_scientific _
  · exact absurd h (by decide)

theorem numberText_printDouble {x : Float} (h : Decimal.isFinite x = true) :
    NumberText (printDouble x) := by
  obtain ⟨negative, text, heq, ds, more, rfl, hne, hdigits, hmore, -⟩ := exists_printDouble h
  rw [heq]
  exact numberText_signed hne hdigits hmore negative

/-- A double is never read as a whole number. -/
theorem isPlainWhole_of_read_printDouble {x : Float} (h : Decimal.isFinite x = true) {n : Numeral}
    (hread : Numeral.read (printDouble x) = some n) : n.isPlainWhole = false := by
  obtain ⟨negative, text, heq, ds, more, rfl, -, -, -, hmark⟩ := exists_printDouble h
  cases hn : n.isPlainWhole with
  | false => rfl
  | true =>
    have hplain := isDigit_of_isPlainWhole hread hn
    have hmem : ∀ c ∈ more, c ∈ printDouble x := by
      intro c hc
      rw [heq]
      cases negative <;> simp [signed, hc]
    rcases hmark with hdot | he
    · exact absurd (hplain '.' (hmem _ hdot)) (by decide)
    · exact absurd (hplain 'e' (hmem _ he)) (by decide)

end BuildPipeline.Json
