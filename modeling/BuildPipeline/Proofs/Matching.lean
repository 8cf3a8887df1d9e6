import BuildPipeline.Proofs.NumberScan

/-! What matchers find: a matcher succeeds where its pattern stands at the front, and only there. A
search passes over all places at which the pattern does not begin. -/
namespace BuildPipeline.Scrape

open Text (isDecimalDigit isWordCharacter)

theorem exactly_append (expected : String) (rest : List Char) :
    exactly expected (expected.toList ++ rest) = some ((), rest) := by
  rw [exactly, if_pos (List.isPrefixOf_iff_prefix.2 (List.prefix_append _ rest)), List.drop_left]

theorem eq_append_of_exactly {expected : String} {text rest : List Char} {u : Unit}
    (h : exactly expected text = some (u, rest)) : text = expected.toList ++ rest := by
  rw [exactly] at h
  split at h
  · next hpre =>
    obtain ⟨more, rfl⟩ := List.isPrefixOf_iff_prefix.1 hpre
    cases h
    rw [List.drop_left]
  · cases h

theorem digits_append {ds rest : List Char} (hne : ds ≠ [])
    (hds : ∀ c ∈ ds, isDecimalDigit c = true) (h : BeginsOther rest) :
    digits (ds ++ rest) = some (ds, rest) := by
  simp [digits, takeWhile_digits hds h, dropWhile_digits hds h, hne]

theorem eq_append_of_digits {text ds rest : List Char} (h : digits text = some (ds, rest)) :
    text = ds ++ rest ∧ ds ≠ [] ∧ ∀ c ∈ ds, isDecimalDigit c = true := by
  rw [digits] at h
  split at h
  · cases h
  · next hne =>
    cases h
    exact ⟨(List.takeWhile_append_dropWhile).symm, by simpa using hne,
      fun _ => List.mem_takeWhile_imp⟩

theorem word_append {w rest : List Char} (hne : w ≠ []) (hw : ∀ c ∈ w, isWordCharacter c = true) :
    word (w ++ ' ' :: rest) = some ((), ' ' :: rest) := by
  cases w with
  | nil => exact absurd rfl hne
  | cons c w =>
    obtain ⟨hc, hrest⟩ := List.forall_mem_cons.1 hw
    rw [List.cons_append, word, if_pos hc, List.dropWhile_append_of_pos hrest]
    rfl

theorem eq_append_of_word {text rest : List Char} {u : Unit} (h : word text = some (u, rest)) :
    ∃ w, text = w ++ rest ∧ ∀ c ∈ w, isWordCharacter c = true := by
  cases text with
  | nil => cases h
  | cons c more =>
    rw [word] at h
    split at h
    · next hc =>
      cases h
      exact ⟨c :: more.takeWhile isWordCharacter,
        by rw [List.cons_append, List.takeWhile_append_dropWhile],
        List.forall_mem_cons.2 ⟨hc, fun _ => List.mem_takeWhile_imp⟩⟩
    · cases h

/-- A pattern at the front of a text ends before the first character that it does not hold. -/
theorem prefix_of_notMem {pattern front back rest : List Char} {d : Char} (hd : d ∉ pattern)
    (h : front ++ d :: back = pattern ++ rest) : pattern <+: front := by
  obtain ⟨reach, rfl, hback⟩ | ⟨more, hfront, -⟩ := List.append_eq_append_iff.1 h
  · cases reach with
    | nil => simp
    | cons c more =>
      cases hback
      exact absurd (by simp) hd
  · exact ⟨more, hfront.symm⟩

theorem notMem_of_isDecimalDigit {pattern : List Char} (h : pattern.any isDecimalDigit = false)
    {d : Char} (hd : isDecimalDigit d = true) : d ∉ pattern := by
  intro hmem
  rw [isDecimalDigit_of_any h hmem] at hd
  cases hd

/-- Word characters up to a blank can be read in one way only. -/
theorem words_inj {w v rest more : List Char} (hw : ∀ c ∈ w, isWordCharacter c = true)
    (hv : ∀ c ∈ v, isWordCharacter c = true) (h : w ++ ' ' :: rest = v ++ ' ' :: more) :
    w = v ∧ rest = more := by
  have hblank : isWordCharacter ' ' = false := by decide
  have htake := congrArg (List.takeWhile isWordCharacter) h
  rw [List.takeWhile_append_of_pos hw, List.takeWhile_append_of_pos hv,
    List.takeWhile_cons_of_neg (by simp [hblank]), List.takeWhile_cons_of_neg (by simp [hblank]),
    List.append_nil, List.append_nil] at htake
  refine ⟨htake, ?_⟩
  rw [htake, List.append_cancel_left_eq] at h
  exact (List.cons.inj h).2

/-! ### Searching -/

variable {α : Type} {m : Matcher α}

theorem first?_of_some {x : α} {text rest : List Char} (h : m text = some (x, rest)) :
    first? m text = some x := by
  cases text with
  | nil => rw [first?, h, Option.map_some]
  | cons c text => simp only [first?, h]

/-- Text in which a pattern does not begin is passed over. -/
theorem first?_append {before text : List Char}
    (h : ∀ back, back ≠ [] → back <:+ before → m (back ++ text) = none) :
    first? m (before ++ text) = first? m text := by
  induction before with
  | nil => rfl
  | cons c before ih =>
    have hnone : m (c :: (before ++ text)) = none :=
      h (c :: before) (List.cons_ne_nil _ _) List.suffix_rfl
    rw [List.cons_append, first?, hnone]
    exact ih fun back hne hback => h back hne (hback.trans (List.suffix_cons c before))

theorem first?_isSome_iff {text : List Char} :
    (first? m text).isSome = true ↔ ∃ back, back <:+ text ∧ (m back).isSome = true := by
  induction text with
  | nil => simp [first?, List.suffix_nil]
  | cons c text ih =>
    rw [first?]
    cases hm : m (c :: text) with
    | none => simp [List.suffix_cons_iff, or_and_right, exists_or, hm, ih]
    | some found => simpa using ⟨c :: text, List.suffix_rfl, by rw [hm, Option.isSome_some]⟩

end BuildPipeline.Scrape
