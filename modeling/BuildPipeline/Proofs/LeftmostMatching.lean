import BuildPipeline.Proofs.Matching
import BuildPipeline.Scrape.Findings
import BuildPipeline.Scrape.Tests

/-! A pattern that begins with digits, tried at every place of a text from the left. It takes as
many digits as leave the rest of the pattern a match, and finds the numbers of the text that the
rest of the pattern follows. -/
namespace BuildPipeline.Scrape

open Text (isBlank isDecimalDigit)

variable {α : Type} {m tail : Matcher α} {text : List Char}

/-- Digits and what a matcher finds after them. More digits are preferred to fewer. -/
def numbered (tail : Matcher α) : Matcher (List Char × α)
  | [] => none
  | c :: rest =>
    if isDecimalDigit c then
      match numbered tail rest with
      | some ((ds, x), left) => some ((c :: ds, x), left)
      | none => (tail rest).map fun found => (([c], found.1), found.2)
    else none

/-- What a pattern finds in a text from the left. The next match is looked for behind the last. -/
inductive Matches (m : Matcher α) : List Char → List α → Prop
  | nil : m [] = none → Matches m [] []
  | hit {text rest : List Char} {x : α} {found : List α} : m text = some (x, rest) →
      Matches m rest found → Matches m text (x :: found)
  | skip {c : Char} {rest : List Char} {found : List α} : m (c :: rest) = none →
      Matches m rest found → Matches m (c :: rest) found

theorem Matches.unique {xs ys : List α} (h : Matches m text xs) (h' : Matches m text ys) :
    xs = ys := by
  induction h generalizing ys with
  | nil hm =>
    cases h' with
    | nil => rfl
    | hit hm' => cases hm.symm.trans hm'
  | hit hm _ ih =>
    cases h' with
    | nil hm' => cases hm.symm.trans hm'
    | hit hm' h' =>
      cases hm.symm.trans hm'
      rw [ih h']
    | skip hm' => cases hm.symm.trans hm'
  | skip hm _ ih =>
    cases h' with
    | hit hm' => cases hm.symm.trans hm'
    | skip _ h' => exact ih h'

/-- Text in which a pattern does not begin holds none of its matches. -/
theorem matches_append {before : List Char} {found : List α}
    (h : ∀ back, back ≠ [] → back <:+ before → m (back ++ text) = none) :
    Matches m (before ++ text) found ↔ Matches m text found := by
  induction before with
  | nil => rfl
  | cons c before ih =>
    have hnone : m (c :: (before ++ text)) = none :=
      h (c :: before) (List.cons_ne_nil _ _) List.suffix_rfl
    rw [← ih fun back hne hback => h back hne (hback.trans (List.suffix_cons c before))]
    constructor
    · intro hfound
      cases hfound with
      | hit hm => cases hnone.symm.trans hm
      | skip _ hfound => exact hfound
    · exact .skip hnone

/-! ### Digits before a match -/

/-- No match begins with a digit. -/
def AfterDigits (tail : Matcher α) : Prop :=
  ∀ text, (tail text).isSome = true → BeginsOther text

theorem numbered_of_beginsOther (h : BeginsOther text) : numbered tail text = none := by
  cases text with
  | nil => rfl
  | cons c rest => simp [numbered, h c rfl]

/-- All digits are taken, because no match begins with one. -/
theorem numbered_append (htail : AfterDigits tail) {ds after : List Char} (hne : ds ≠ [])
    (hds : ∀ c ∈ ds, isDecimalDigit c = true) (h : BeginsOther after) :
    numbered tail (ds ++ after) =
      (tail after).map fun found => ((ds, found.1), found.2) := by
  induction ds with
  | nil => exact absurd rfl hne
  | cons c ds ih =>
    obtain ⟨hc, hrest⟩ := List.forall_mem_cons.1 hds
    rw [List.cons_append, numbered, if_pos hc]
    cases ds with
    | nil => rw [List.nil_append, numbered_of_beginsOther h]
    | cons d more =>
      rw [ih (List.cons_ne_nil _ _) hrest]
      cases hafter : tail after with
      | some found => rfl
      | none =>
        have hnone : tail (d :: more ++ after) = none := by
          rw [← Option.not_isSome_iff_eq_none]
          intro hsome
          have hother := htail _ hsome d rfl
          rw [hrest d List.mem_cons_self] at hother
          cases hother
        rw [Option.map_none, hnone]
        rfl

/-- Within a number that the rest of the pattern does not follow there is no match. -/
theorem numbered_suffix (htail : AfterDigits tail) {ds after : List Char}
    (hds : ∀ c ∈ ds, isDecimalDigit c = true) (h : BeginsOther after) (hafter : tail after = none)
    (back : List Char) (hne : back ≠ []) (hback : back <:+ ds) :
    numbered tail (back ++ after) = none := by
  rw [numbered_append htail hne (fun c hc => hds c (hback.subset hc)) h, hafter, Option.map_none]

theorem number_at_front {c : Char} (hc : isDecimalDigit c = true) (rest : List Char) :
    (∀ d ∈ c :: rest.takeWhile isDecimalDigit, isDecimalDigit d = true) ∧
      c :: rest = c :: rest.takeWhile isDecimalDigit ++ rest.dropWhile isDecimalDigit := by
  constructor
  · exact List.forall_mem_cons.2 ⟨hc, fun _ => List.mem_takeWhile_imp⟩
  · rw [List.cons_append, List.takeWhile_append_dropWhile]

/-- The first match is at the first number that the rest of the pattern follows. -/
theorem first?_numbered (htail : AfterDigits tail) (text : List Char) :
    first? (numbered tail) text =
      (numbers text).findSome? fun n => (tail n.after).map fun found => (n.digits, found.1) := by
  fun_induction numbers text with
  | case1 => rfl
  | case2 c rest hc after =>
    rename_i ih
    obtain ⟨hds, hsplit⟩ := number_at_front hc rest
    have hother : BeginsOther after := beginsOther_dropWhile rest
    have hfront := numbered_append htail (List.cons_ne_nil _ _) hds hother
    rw [hsplit, List.findSome?_cons, ← ih]
    cases hafter : tail after with
    | some found =>
      rw [hafter, Option.map_some] at hfront
      exact first?_of_some hfront
    | none => exact first?_append (numbered_suffix htail hds hother hafter)
  | case3 c rest hc ih =>
    have hother := beginsOther_cons (Bool.eq_false_iff.2 hc) rest
    rw [first?, numbered_of_beginsOther hother]
    exact ih

/-- Matches hold no digit, and at least one character. -/
def Digitless (tail : Matcher α) : Prop :=
  ∀ text x rest, tail text = some (x, rest) →
    ∃ front, front ≠ [] ∧ text = front ++ rest ∧ ∀ c ∈ front, isDecimalDigit c = false

theorem Digitless.afterDigits (htail : Digitless tail) : AfterDigits tail := by
  intro text hsome
  obtain ⟨found, hfound⟩ := Option.isSome_iff_exists.1 hsome
  obtain ⟨front, hne, rfl, hdigits⟩ := htail _ _ _ hfound
  cases front with
  | nil => exact absurd rfl hne
  | cons c front => exact beginsOther_cons (hdigits c List.mem_cons_self) _

/-- The matches are at the numbers that the rest of the pattern follows. -/
theorem matches_numbers (htail : Digitless tail) (text : List Char) :
    Matches (numbered tail) text ((numbers text).filterMap fun n =>
      (tail n.after).map fun found => (n.digits, found.1)) := by
  fun_induction numbers text with
  | case1 => exact .nil rfl
  | case2 c rest hc after =>
    rename_i ih
    obtain ⟨hds, hsplit⟩ := number_at_front hc rest
    have hother : BeginsOther after := beginsOther_dropWhile rest
    have hfront := numbered_append htail.afterDigits (List.cons_ne_nil _ _) hds hother
    rw [hsplit, List.filterMap_cons]
    cases hafter : tail after with
    | some found =>
      rw [hafter, Option.map_some] at hfront
      -- no number begins in what the rest of the pattern has taken
      obtain ⟨taken, -, htaken, hdigits⟩ := htail _ _ _ hafter
      rw [htaken] at ih
      have hrest := (matches_append fun back hne hback => ?_).1 ih
      · rw [htaken]
        exact .hit (htaken ▸ hfront) hrest
      · cases back with
        | nil => exact absurd rfl hne
        | cons d more =>
          have hd := hdigits d (hback.subset List.mem_cons_self)
          exact numbered_of_beginsOther (beginsOther_cons hd _)
    | none => exact (matches_append (numbered_suffix htail.afterDigits hds hother hafter)).2 ih
  | case3 c rest hc ih =>
    exact .skip (numbered_of_beginsOther (beginsOther_cons (Bool.eq_false_iff.2 hc) rest)) ih

/-! ### The patterns of the scrapers -/

theorem find?_numbers (htail : AfterDigits tail) (text : List Char) :
    ((numbers text).find? fun n => (tail n.after).isSome).map (·.digits) =
      (first? (numbered tail) text).map (·.1) := by
  rw [first?_numbered htail]
  induction numbers text with
  | nil => rfl
  | cons n more ih =>
    rw [List.find?_cons, List.findSome?_cons]
    cases tail n.after with
    | some found => rfl
    | none => exact ih

theorem digitless_spaced {noun : String} (hnoun : noun.toList.any isDecimalDigit = false) :
    Digitless (spaced noun) := by
  intro text u rest hfound
  cases text with
  | nil => cases hfound
  | cons c more =>
    cases hc : isBlank c with
    | false => simp [spaced, blanks, hc] at hfound
    | true =>
      have hrest : exactly noun (more.dropWhile isBlank) = some (u, rest) := by
        simpa [spaced, blanks, hc] using hfound
      refine ⟨c :: more.takeWhile isBlank ++ noun.toList, by simp, ?_, ?_⟩
      · rw [List.append_assoc, ← eq_append_of_exactly hrest, List.cons_append,
          List.takeWhile_append_dropWhile]
      · refine List.forall_mem_append.2 ⟨List.forall_mem_cons.2 ⟨?_, fun d hd => ?_⟩, ?_⟩
        · exact Text.isDecimalDigit_of_isBlank hc
        · exact Text.isDecimalDigit_of_isBlank (List.mem_takeWhile_imp hd)
        · exact fun d hd => isDecimalDigit_of_any hnoun hd

theorem afterDigits_exactly {expected : String} {c : Char} {more : List Char}
    (hexpected : expected.toList = c :: more) (hc : isDecimalDigit c = false) :
    AfterDigits (exactly expected) := by
  intro text hsome
  obtain ⟨found, hfound⟩ := Option.isSome_iff_exists.1 hsome
  rw [eq_append_of_exactly hfound, hexpected]
  exact beginsOther_cons hc _

/-- The counts of every match of a number, white space and the word are added up. -/
theorem sumBefore_matches {noun : String} (hnoun : noun.toList.any isDecimalDigit = false)
    (text : List Char) :
    ∃ found, Matches (numbered (spaced noun)) text found ∧
      sumBefore noun text = Count.sum (found.filterMap fun number => count? number.1) := by
  refine ⟨_, matches_numbers (digitless_spaced hnoun) text, ?_⟩
  rw [sumBefore, List.filterMap_filterMap]
  congr 2
  funext n
  cases spaced noun n.after <;> rfl

/-- An item is the first match of a number and the word. -/
theorem itemCount_first {noun : String} {c : Char} {more : List Char}
    (hnoun : noun.toList = c :: more) (hc : isDecimalDigit c = false) (line : List Char) :
    itemCount line noun = countOrZero ((first? (numbered (exactly noun)) line).map (·.1)) := by
  rw [itemCount, find?_numbers (afterDigits_exactly hnoun hc)]

/-- A pattern begins with a digit only if what it asks for first does. -/
theorem AfterDigits.of_front {β : Type} {front : Matcher β} (h : AfterDigits front)
    (hfront : ∀ text, front text = none → tail text = none) : AfterDigits tail := by
  intro text hsome
  apply h
  rw [Option.isSome_iff_ne_none] at hsome ⊢
  exact mt (hfront text) hsome

theorem afterDigits_vulnerabilityTail : AfterDigits vulnerabilityTail := by
  have hspace : AfterDigits (exactly " ") := afterDigits_exactly rfl (by decide)
  exact hspace.of_front fun text hnone => by simp [vulnerabilityTail, hnone]

theorem afterDigits_problemTail : AfterDigits problemTail := by
  have hproblem : AfterDigits (exactly " problem") := afterDigits_exactly rfl (by decide)
  exact hproblem.of_front fun text hnone => by simp [problemTail, hnone]

theorem vulnerabilities_first (text : String) :
    vulnerabilities text = match (first? foundLine text.toList).bind count? with
      | some n => n
      | none =>
        countOrZero ((first? (numbered vulnerabilityTail) text.toList).map (·.1)) := by
  rw [← find?_numbers afterDigits_vulnerabilityTail]
  rfl

theorem lintFindings_first (text : String) :
    lintFindings text = match first? (numbered problemTail) text.toList with
      | none => ⟨0, 0⟩
      | some (_, errors, warnings) =>
        ⟨countOrZero (some errors), countOrZero (some warnings)⟩ := by
  rw [lintFindings, first?_numbered afterDigits_problemTail]
  induction numbers text.toList with
  | nil => rfl
  | cons n more ih =>
    rw [List.findSome?_cons, List.findSome?_cons]
    cases problemTail n.after with
    | some found => rfl
    | none => exact ih

end BuildPipeline.Scrape
