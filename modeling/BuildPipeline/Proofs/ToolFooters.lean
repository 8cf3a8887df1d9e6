import BuildPipeline.Proofs.Matching
import BuildPipeline.Scrape.Findings

/-! What scanners and linters say at the end of their output, written and read: the counts are read
back wherever the phrase stands. No earlier part of the text, and none that reaches into the phrase,
is taken for it. -/
namespace BuildPipeline.Scrape

open Text (isDecimalDigit isWordCharacter)

/-! ### Linters -/

def nounFor (noun : String) (many : Bool) : String := if many then noun ++ "s" else noun

def findingsText (manyProblems manyErrors manyWarnings : Bool) (errors warnings : Count) : String :=
  nounFor " problem" manyProblems ++ " (" ++ errors.text ++ nounFor " error" manyErrors ++ ", " ++
    warnings.text ++ nounFor " warning" manyWarnings ++ ")"

/-- Whether a noun is in its plural makes no difference. -/
theorem optionally_plural (noun : String) (many : Bool) {c : Char} (hc : c ≠ 's')
    (rest : List Char) :
    ∃ found, exactly noun ((nounFor noun many).toList ++ c :: rest) = some ((), found) ∧
      optionally 's' found = c :: rest := by
  cases many with
  | false =>
    refine ⟨c :: rest, exactly_append noun _, ?_⟩
    rw [optionally, if_neg hc]
  | true =>
    refine ⟨'s' :: c :: rest, ?_, by rw [optionally, if_pos rfl]⟩
    rw [nounFor, if_pos rfl, String.toList_append, List.append_assoc]
    exact exactly_append noun _

theorem beginsOther_nounFor {noun : String} (h : noun.toList.head? = some ' ') (many : Bool)
    (rest : List Char) : BeginsOther ((nounFor noun many).toList ++ rest) := by
  have hhead : ((nounFor noun many).toList ++ rest).head? = some ' ' := by
    cases many <;> simp [nounFor, List.head?_append, h]
  exact beginsOther_of_head? hhead (by decide)

theorem problemTail_findingsText (manyProblems manyErrors manyWarnings : Bool)
    (errors warnings : Count) (after : List Char) :
    problemTail ((findingsText manyProblems manyErrors manyWarnings errors warnings).toList ++
      after) = some ((errors.text.toList, warnings.text.toList), after) := by
  -- the text after each number, the last one first
  let closing := (nounFor " warning" manyWarnings).toList ++ ')' :: after
  let second :=
    (nounFor " error" manyErrors).toList ++ ',' :: ' ' :: (warnings.text.toList ++ closing)
  have htext : (findingsText manyProblems manyErrors manyWarnings errors warnings).toList ++ after =
      (nounFor " problem" manyProblems).toList ++ ' ' :: '(' :: (errors.text.toList ++ second) := by
    simp [findingsText, second, closing]
  obtain ⟨problem, hproblem, hopen⟩ := optionally_plural " problem" manyProblems
    (c := ' ') (by decide) ('(' :: (errors.text.toList ++ second))
  obtain ⟨error, herror, hcomma⟩ := optionally_plural " error" manyErrors
    (c := ',') (by decide) (' ' :: (warnings.text.toList ++ closing))
  obtain ⟨warning, hwarning, hclose⟩ := optionally_plural " warning" manyWarnings
    (c := ')') (by decide) after
  have hopening : exactly " (" (' ' :: '(' :: (errors.text.toList ++ second)) =
      some ((), errors.text.toList ++ second) := exactly_append " (" _
  have hbetween : exactly ", " (',' :: ' ' :: (warnings.text.toList ++ closing)) =
      some ((), warnings.text.toList ++ closing) := exactly_append ", " _
  have hclosing : exactly ")" (')' :: after) = some ((), after) := exactly_append ")" _
  have herrors : digits (errors.text.toList ++ second) = some (errors.text.toList, second) :=
    digits_append (Count.toList_text_ne_nil _) (fun _ => Count.isDecimalDigit_of_mem_text)
      (beginsOther_nounFor rfl manyErrors _)
  have hwarnings : digits (warnings.text.toList ++ closing) =
      some (warnings.text.toList, closing) :=
    digits_append (Count.toList_text_ne_nil _) (fun _ => Count.isDecimalDigit_of_mem_text)
      (beginsOther_nounFor rfl manyWarnings _)
  rw [htext, problemTail, hproblem]
  simp only [Option.bind_eq_bind, Option.pure_def, Option.bind_some, hopen, hopening, herrors,
    second, herror, hcomma, hbetween, hwarnings, closing, hwarning, hclose, hclosing]

/-- No number of a text without the noun is taken for that of the problems. -/
theorem problemTail_eq_none {before between : List Char} (h : ¬ " problem".toList <:+: before)
    (hbetween : between <:+ before) {d : Char} (hd : isDecimalDigit d = true) (rest : List Char) :
    problemTail (between ++ d :: rest) = none := by
  cases hproblem : exactly " problem" (between ++ d :: rest) with
  | none => simp [problemTail, hproblem]
  | some found =>
    have hpre := prefix_of_notMem (notMem_of_isDecimalDigit (by decide) hd)
      (eq_append_of_exactly hproblem)
    exact absurd (hpre.isInfix.trans hbetween.isInfix) h

/-- The first number that is said to be that of the problems is the one before the summary. -/
theorem lintFindings_append (number errors warnings : Count)
    (manyProblems manyErrors manyWarnings : Bool) {before : String} (after : String)
    (h : ¬ " problem".toList <:+: before.toList) :
    lintFindings (before ++ (number.text ++
      findingsText manyProblems manyErrors manyWarnings errors warnings) ++ after) =
        ⟨errors, warnings⟩ := by
  let tail := (findingsText manyProblems manyErrors manyWarnings errors warnings).toList ++
    after.toList
  have hbegins : BeginsOther tail := by
    have hnoun (rest : List Char) :
        BeginsOther ((nounFor " problem" manyProblems).toList ++ rest) :=
      beginsOther_nounFor rfl manyProblems rest
    simpa [tail, findingsText] using hnoun _
  obtain ⟨d, ds, hdigits, hd⟩ := number.toList_text_eq_cons
  obtain ⟨earlier, front, hnumbers, -, -, hearlier⟩ := numbers_append_digits before.toList
    (Count.toList_text_ne_nil number) (fun _ => Count.isDecimalDigit_of_mem_text) hbegins
  have hnone : earlier.findSome? (fun n => problemTail n.after) = none := by
    rw [List.findSome?_eq_none_iff]
    intro n hn
    obtain ⟨between, -, hsuffix, -, hafter⟩ := hearlier n hn
    rw [hafter, hdigits, List.cons_append]
    exact problemTail_eq_none h hsuffix hd _
  have hfound : (numbers (before ++ (number.text ++ findingsText manyProblems manyErrors
      manyWarnings errors warnings) ++ after).toList).findSome? (fun n => problemTail n.after) =
        some ((errors.text.toList, warnings.text.toList), after.toList) := by
    rw [String.toList_append, String.toList_append, String.toList_append, List.append_assoc,
      List.append_assoc, hnumbers, List.findSome?_append, hnone, Option.none_or,
      List.findSome?_cons, problemTail_findingsText]
  rw [lintFindings, hfound]
  simp only [countOrZero_text]

/-! ### Scanners -/

def foundPhrase (ds : List Char) : List Char := "found ".toList ++ (ds ++ " vulnerabilit".toList)

def TellsFound (text : List Char) : Prop :=
  ∃ ds, ds ≠ [] ∧ (∀ c ∈ ds, isDecimalDigit c = true) ∧ foundPhrase ds <:+: text

theorem foundPhrase_append (ds rest : List Char) :
    foundPhrase ds ++ rest = "found ".toList ++ (ds ++ (" vulnerabilit".toList ++ rest)) := by
  unfold foundPhrase
  rw [List.append_assoc, List.append_assoc]

/-- The letter that the phrase begins with does not come again in it. -/
theorem foundPhrase_eq_cons {ds : List Char} (hds : ∀ c ∈ ds, isDecimalDigit c = true) :
    ∃ phrase, foundPhrase ds = 'f' :: phrase ∧ 'f' ∉ phrase := by
  refine ⟨"ound ".toList ++ (ds ++ " vulnerabilit".toList), rfl, ?_⟩
  have hother : 'f' ∉ ds := fun hmem => absurd (hds 'f' hmem) (by decide)
  simp [hother]

theorem foundLine_append {ds : List Char} (hne : ds ≠ [])
    (hds : ∀ c ∈ ds, isDecimalDigit c = true) (rest : List Char) :
    foundLine (foundPhrase ds ++ rest) = some (ds, rest) := by
  have hbegins : BeginsOther (" vulnerabilit".toList ++ rest) := beginsOther_cons (by decide) _
  rw [foundPhrase_append, foundLine, exactly_append]
  simp only [Option.bind_eq_bind, Option.pure_def, Option.bind_some, digits_append hne hds hbegins,
    exactly_append]

theorem eq_append_of_foundLine {text ds rest : List Char} (h : foundLine text = some (ds, rest)) :
    text = foundPhrase ds ++ rest ∧ ds ≠ [] ∧ ∀ c ∈ ds, isDecimalDigit c = true := by
  simp only [foundLine, Option.bind_eq_bind, Option.pure_def, Option.bind_eq_some_iff] at h
  obtain ⟨⟨_, afterFound⟩, hfound, ⟨run, afterDigits⟩, hdigits, ⟨_, left⟩, hnoun, heq⟩ := h
  cases heq
  obtain ⟨rfl, hne, hrun⟩ := eq_append_of_digits hdigits
  obtain rfl := eq_append_of_exactly hnoun
  exact ⟨(eq_append_of_exactly hfound).trans (foundPhrase_append _ _).symm, hne, hrun⟩

theorem tellsFound_iff {text : List Char} :
    TellsFound text ↔ (first? foundLine text).isSome = true := by
  rw [first?_isSome_iff]
  constructor
  · rintro ⟨ds, hne, hds, before, after, rfl⟩
    refine ⟨foundPhrase ds ++ after, ⟨before, (List.append_assoc _ _ _).symm⟩, ?_⟩
    rw [foundLine_append hne hds, Option.isSome_some]
  · rintro ⟨back, hback, hsome⟩
    obtain ⟨⟨ds, rest⟩, hfound⟩ := Option.isSome_iff_exists.1 hsome
    obtain ⟨rfl, hne, hds⟩ := eq_append_of_foundLine hfound
    exact ⟨ds, hne, hds, (List.prefix_append _ rest).isInfix.trans hback.isInfix⟩

instance (text : List Char) : Decidable (TellsFound text) :=
  decidable_of_iff _ tellsFound_iff.symm

/-- Where nothing was said before, the first number that is said to be found is the one here. -/
theorem first?_foundLine {before ds : List Char} (h : ¬ TellsFound before) (hne : ds ≠ [])
    (hds : ∀ c ∈ ds, isDecimalDigit c = true) (rest : List Char) :
    first? foundLine (before ++ (foundPhrase ds ++ rest)) = some ds := by
  have hnone (back : List Char) (hback : back ≠ []) (hsuffix : back <:+ before) :
      foundLine (back ++ (foundPhrase ds ++ rest)) = none := by
    cases hfound : foundLine (back ++ (foundPhrase ds ++ rest)) with
    | none => rfl
    | some found =>
      obtain ⟨run, left⟩ := found
      obtain ⟨heq, hrun, hrundigits⟩ := eq_append_of_foundLine hfound
      obtain ⟨phrase, hphrase, -⟩ := foundPhrase_eq_cons hds
      obtain ⟨other, hother, hletter⟩ := foundPhrase_eq_cons hrundigits
      obtain ⟨c, back, rfl⟩ := List.exists_cons_of_ne_nil hback
      rw [hphrase, hother, List.cons_append, List.cons_append, List.cons_append,
        List.cons.injEq] at heq
      have hpre : foundPhrase run <+: c :: back := by
        rw [hother, List.cons_prefix_cons]
        exact ⟨heq.1.symm, prefix_of_notMem hletter heq.2⟩
      exact absurd ⟨run, hrun, hrundigits, hpre.isInfix.trans hsuffix.isInfix⟩ h
  rw [first?_append hnone]
  exact first?_of_some (foundLine_append hne hds rest)

/-- What is said to be found goes before all other numbers. -/
theorem vulnerabilities_found (number : Count) {before : String} (after : String)
    (h : ¬ TellsFound before.toList) :
    vulnerabilities (before ++ ("found " ++ number.text ++ " vulnerabilities") ++ after) =
      number := by
  have htext : (before ++ ("found " ++ number.text ++ " vulnerabilities") ++ after).toList =
      before.toList ++ (foundPhrase number.text.toList ++ ("ies".toList ++ after.toList)) := by
    simp [foundPhrase_append]
  rw [vulnerabilities, htext, first?_foundLine h (Count.toList_text_ne_nil _)
    (fun _ => Count.isDecimalDigit_of_mem_text), Option.bind_some, count?_text]

def IsWord (w : String) : Prop := w ≠ "" ∧ ∀ c ∈ w.toList, isWordCharacter c = true

/-- The noun in its singular or plural, from where the two differ. -/
def nounEnding (many : Bool) : String := if many then "ies" else "y"

/-- What a scanner says after a number of vulnerabilities, of one severity or of all. -/
def vulnerabilitiesText (severity? : Option String) (many : Bool) : String :=
  " " ++ (severity?.elim "" (· ++ " severity ") ++ ("vulnerabilit" ++ nounEnding many))

theorem vulnerabilityNoun_append (many : Bool) (rest : List Char) :
    (vulnerabilityNoun ("vulnerabilit".toList ++ ((nounEnding many).toList ++ rest))).isSome =
      true := by
  rw [vulnerabilityNoun, exactly_append]
  cases many with
  | false => simp [nounEnding, exactly]
  | true => simp [nounEnding, exactly]

theorem prefix_of_vulnerabilityNoun {text : List Char}
    (h : (vulnerabilityNoun text).isSome = true) : "vulnerabilit".toList <+: text := by
  cases hnoun : exactly "vulnerabilit" text with
  | none => simp [vulnerabilityNoun, hnoun] at h
  | some found => exact ⟨found.2, (eq_append_of_exactly hnoun).symm⟩

theorem severity_append {w rest : List Char} (hne : w ≠ [])
    (hw : ∀ c ∈ w, isWordCharacter c = true) :
    severity (w ++ (" severity ".toList ++ rest)) = some ((), rest) := by
  have hword : word (w ++ (" severity ".toList ++ rest)) = some ((), " severity ".toList ++ rest) :=
    word_append hne hw
  rw [severity, hword]
  exact exactly_append " severity " rest

theorem eq_append_of_severity {text rest : List Char} {u : Unit}
    (h : severity text = some (u, rest)) :
    ∃ w, text = w ++ (" severity ".toList ++ rest) ∧ ∀ c ∈ w, isWordCharacter c = true := by
  simp only [severity, Option.bind_eq_bind, Option.bind_eq_some_iff] at h
  obtain ⟨⟨_, left⟩, hword, hseverity⟩ := h
  obtain ⟨w, rfl, hw⟩ := eq_append_of_word hword
  exact ⟨w, by rw [← eq_append_of_exactly hseverity], hw⟩

theorem vulnerabilityTail_blank (rest : List Char) :
    (vulnerabilityTail (' ' :: rest)).isSome =
      (((severity rest).bind fun found => vulnerabilityNoun found.2).isSome ||
        (vulnerabilityNoun rest).isSome) := by
  have hblank : exactly " " (' ' :: rest) = some ((), rest) := exactly_append " " rest
  rw [vulnerabilityTail, hblank]
  cases hsevere : (severity rest).bind fun found => vulnerabilityNoun found.2 <;> simp [hsevere]

/-- The tail of a number of vulnerabilities: a blank, then the noun or a word and a severity. -/
theorem eq_of_vulnerabilityTail {text : List Char} (h : (vulnerabilityTail text).isSome = true) :
    ∃ rest, text = ' ' :: rest ∧ ("vulnerabilit".toList <+: rest ∨
      ∃ w more, (∀ c ∈ w, isWordCharacter c = true) ∧
        rest = w ++ (" severity vulnerabilit".toList ++ more)) := by
  cases hblank : exactly " " text with
  | none => simp [vulnerabilityTail, hblank] at h
  | some found =>
    obtain rfl : text = ' ' :: found.2 := eq_append_of_exactly hblank
    refine ⟨found.2, rfl, ?_⟩
    rw [vulnerabilityTail_blank, Bool.or_eq_true, Option.isSome_bind, Option.any_eq_true] at h
    obtain ⟨severe, hsevere, hnoun⟩ | hnoun := h
    · obtain ⟨w, hsplit, hw⟩ := eq_append_of_severity hsevere
      obtain ⟨more, hmore⟩ := prefix_of_vulnerabilityNoun hnoun
      exact .inr ⟨w, more, hw, by rw [hsplit, ← hmore]; rfl⟩
    · exact .inl (prefix_of_vulnerabilityNoun hnoun)

theorem vulnerabilityTail_append {severity? : Option String}
    (h : ∀ w ∈ severity?, IsWord w) (many : Bool)
    (rest : List Char) :
    (vulnerabilityTail ((vulnerabilitiesText severity? many).toList ++ rest)).isSome = true := by
  cases severity? with
  | none =>
    have htext : (vulnerabilitiesText none many).toList ++ rest =
        ' ' :: ("vulnerabilit".toList ++ ((nounEnding many).toList ++ rest)) := by
      simp [vulnerabilitiesText]
    rw [htext, vulnerabilityTail_blank, vulnerabilityNoun_append, Bool.or_true]
  | some w =>
    obtain ⟨hne, hw⟩ := h w rfl
    have htext : (vulnerabilitiesText (some w) many).toList ++ rest =
        ' ' :: (w.toList ++ (" severity ".toList ++
          ("vulnerabilit".toList ++ ((nounEnding many).toList ++ rest)))) := by
      simp [vulnerabilitiesText]
    rw [htext, vulnerabilityTail_blank, severity_append (by simpa using hne) hw, Option.bind_some,
      vulnerabilityNoun_append, Bool.true_or]

/-- No word is left out before a severity. -/
theorem vulnerabilitiesText_ne {severity? : Option String}
    (h : ∀ w ∈ severity?, IsWord w) (many : Bool)
    (rest more : List Char) :
    (vulnerabilitiesText severity? many).toList ++ rest ≠
      " severity vulnerabilit".toList ++ more := by
  intro heq
  cases severity? with
  | none => simp [vulnerabilitiesText] at heq
  | some w =>
    have hsplit : w.toList ++ ' ' :: ("severity vulnerabilit".toList ++
        ((nounEnding many).toList ++ rest)) =
          "severity".toList ++ ' ' :: ("vulnerabilit".toList ++ more) := by
      simpa [vulnerabilitiesText] using heq
    obtain ⟨-, hrest⟩ := words_inj (h w rfl).2 (List.all_eq_true.1 (by decide)) hsplit
    simp at hrest

/-- No number of a text without the noun is taken for that of the vulnerabilities. -/
theorem vulnerabilityTail_eq_none {before between : List Char}
    (h : ¬ "vulnerabilit".toList <:+: before) (hbetween : between <:+ before)
    (hne : between ≠ []) (number : Count) {severity? : Option String}
    (hword : ∀ w ∈ severity?, IsWord w) (many : Bool)
    (rest : List Char) :
    ¬ (vulnerabilityTail (between ++ (number.text.toList ++
      ((vulnerabilitiesText severity? many).toList ++ rest)))).isSome = true := by
  intro htail
  obtain ⟨c, between, rfl⟩ := List.exists_cons_of_ne_nil hne
  obtain ⟨d, ds, hdigits, hd⟩ := number.toList_text_eq_cons
  obtain ⟨text, hcons, hshape⟩ := eq_of_vulnerabilityTail htail
  rw [List.cons_append, List.cons.injEq] at hcons
  obtain ⟨-, rfl⟩ := hcons
  obtain ⟨more, hnoun⟩ | ⟨w, more, hw, hsevere⟩ := hshape
  · -- the noun would stand before the number
    rw [hdigits, List.cons_append] at hnoun
    have hpre := prefix_of_notMem (notMem_of_isDecimalDigit (by decide) hd) hnoun.symm
    exact h ((hpre.isInfix.trans (List.suffix_cons c between).isInfix).trans hbetween.isInfix)
  · obtain ⟨front, rfl, hfront⟩ | ⟨back, rfl, hback⟩ := List.append_eq_append_iff.1 hsevere
    · -- the word before the severity would go on into the number, and end with it
      obtain ⟨text, htext⟩ : ∃ text,
          (vulnerabilitiesText severity? many).toList ++ rest = ' ' :: text :=
        ⟨_, by rw [vulnerabilitiesText, String.toList_append]; rfl⟩
      have hnumber : ∀ c ∈ number.text.toList, isWordCharacter c = true := fun c hc =>
        Text.isWordCharacter_of_isDigit (Count.isDigit_of_mem_text hc)
      have hsplit : number.text.toList ++ ' ' :: text =
          front ++ ' ' :: ("severity vulnerabilit".toList ++ more) := htext ▸ hfront
      obtain ⟨-, hrest⟩ := words_inj hnumber
        (fun c hc => hw c (List.mem_append_right _ hc)) hsplit
      exact vulnerabilitiesText_ne hword many rest more (by rw [htext, hrest]; rfl)
    · -- the severity would stand before the number
      rw [hdigits, List.cons_append] at hback
      have hpre := prefix_of_notMem (notMem_of_isDecimalDigit (by decide) hd) hback.symm
      have hnoun : "vulnerabilit".toList <:+: " severity vulnerabilit".toList :=
        ⟨" severity ".toList, [], by simp⟩
      have hsuffix : back <:+ c :: (w ++ back) := List.suffix_append (c :: w) back
      exact h (((hnoun.trans hpre.isInfix).trans hsuffix.isInfix).trans hbetween.isInfix)

/-- Text that does not end in a digit ends in no digits. -/
theorem digits_suffix_eq_nil {front before : List Char} (hfront : front <:+ before)
    (hdigits : ∀ c ∈ front, isDecimalDigit c = true)
    (h : ∀ c ∈ before.getLast?, isDecimalDigit c = false) : front = [] := by
  by_cases hne : front = []
  · exact hne
  · obtain ⟨start, rfl⟩ := hfront
    have hlast : (start ++ front).getLast? = some (front.getLast hne) := by
      rw [List.getLast?_append, List.getLast?_eq_some_getLast hne, Option.some_or]
    have hother := h _ hlast
    rw [hdigits _ (List.getLast_mem hne)] at hother
    cases hother

/-- Where no number was said to be found, the first that is said to be of vulnerabilities counts. -/
theorem vulnerabilities_append (number : Count) {severity? : Option String}
    (hword : ∀ w ∈ severity?, IsWord w) (many : Bool)
    {before after : String} (hseam : ∀ c ∈ before.toList.getLast?, isDecimalDigit c = false)
    (h : ¬ "vulnerabilit".toList <:+: before.toList)
    (hfound : ¬ TellsFound
      (before ++ (number.text ++ vulnerabilitiesText severity? many) ++ after).toList) :
    vulnerabilities (before ++ (number.text ++ vulnerabilitiesText severity? many) ++ after) =
      number := by
  let tail := (vulnerabilitiesText severity? many).toList ++ after.toList
  have htext : (before ++ (number.text ++ vulnerabilitiesText severity? many) ++ after).toList =
      before.toList ++ (number.text.toList ++ tail) := by
    rw [String.toList_append, String.toList_append, String.toList_append, List.append_assoc,
      List.append_assoc]
  have hbegins : BeginsOther tail := by
    have hhead : tail.head? = some ' ' := by simp [tail, vulnerabilitiesText]
    exact beginsOther_of_head? hhead (by decide)
  obtain ⟨earlier, front, hnumbers, hfront, hdigits, hearlier⟩ := numbers_append_digits
    before.toList (Count.toList_text_ne_nil number) (fun _ => Count.isDecimalDigit_of_mem_text)
    hbegins
  have hnone : earlier.find? (fun n => (vulnerabilityTail n.after).isSome) = none := by
    rw [List.find?_eq_none]
    intro n hn
    obtain ⟨between, hne, hsuffix, -, hafter⟩ := hearlier n hn
    rw [hafter]
    exact vulnerabilityTail_eq_none h hsuffix hne number hword many _
  obtain rfl : front = [] := digits_suffix_eq_nil hfront hdigits hseam
  have hread : (numbers (before.toList ++ (number.text.toList ++ tail))).find?
      (fun n => (vulnerabilityTail n.after).isSome) = some ⟨number.text.toList, tail⟩ := by
    have htail : (vulnerabilityTail tail).isSome = true :=
      vulnerabilityTail_append hword many after.toList
    rw [hnumbers, List.find?_append, hnone, Option.none_or, List.find?_cons, htail, List.nil_append]
  rw [tellsFound_iff, Option.not_isSome_iff_eq_none] at hfound
  rw [vulnerabilities, hfound, htext, Option.bind_none]
  simp only [hread, Option.map_some, countOrZero_text]

/-- What linters and scanners say at the end of their output is read as it was written: a linter's
summary if the output before it does not name problems, how many vulnerabilities were found if it
was not said before, and another number of vulnerabilities if it is the first one. -/
theorem tool_footers_read :
    (∀ (number errors warnings : Count) (manyProblems manyErrors manyWarnings : Bool)
      (before after : String), ¬ " problem".toList <:+: before.toList →
      lintFindings (before ++ (number.text ++
        findingsText manyProblems manyErrors manyWarnings errors warnings) ++ after) =
          ⟨errors, warnings⟩) ∧
    (∀ (number : Count) (before after : String), ¬ TellsFound before.toList →
      vulnerabilities (before ++ ("found " ++ number.text ++ " vulnerabilities") ++ after) =
        number) ∧
    (∀ (number : Count) (severity? : Option String) (many : Bool) (before after : String),
      (∀ w ∈ severity?, IsWord w) →
      (∀ c ∈ before.toList.getLast?, isDecimalDigit c = false) →
      ¬ "vulnerabilit".toList <:+: before.toList →
      ¬ TellsFound
        (before ++ (number.text ++ vulnerabilitiesText severity? many) ++ after).toList →
      vulnerabilities (before ++ (number.text ++ vulnerabilitiesText severity? many) ++ after) =
        number) := by
  refine ⟨?_, ?_, ?_⟩
  · intro number errors warnings manyProblems manyErrors manyWarnings before after h
    exact lintFindings_append number errors warnings manyProblems manyErrors manyWarnings after h
  · intro number before after h
    exact vulnerabilities_found number after h
  · intro number severity? many before after hword hseam h hfound
    exact vulnerabilities_append number hword many hseam h hfound

theorem sample_footers_read :
    (¬ " problem".toList <:+: "4 proble 1".toList ∧
      (5 : Count).text ++ findingsText true true false 2 1 = "5 problems (2 errors, 1 warning)" ∧
      lintFindings ("4 proble 1" ++ ((5 : Count).text ++ findingsText true true false 2 1) ++
        "\n") = ⟨2, 1⟩) ∧
    (¬ TellsFound "found 3 packages, 9 vulnerabilities, found ".toList ∧
      vulnerabilities ("found 3 packages, 9 vulnerabilities, found " ++
        ("found " ++ (12 : Count).text ++ " vulnerabilities") ++ " (1 low)") = 12) ∧
    ((∀ w ∈ some "high", IsWord w) ∧
      (∀ c ∈ "found 40 low severity ".toList.getLast?, isDecimalDigit c = false) ∧
      ¬ "vulnerabilit".toList <:+: "found 40 low severity ".toList ∧
      ¬ TellsFound ("found 40 low severity " ++ ((2 : Count).text ++
        vulnerabilitiesText (some "high") false) ++ ", 7 vulnerabilities").toList ∧
      (2 : Count).text ++ vulnerabilitiesText (some "high") false =
        "2 high severity vulnerability" ∧
      vulnerabilities ("found 40 low severity " ++ ((2 : Count).text ++
        vulnerabilitiesText (some "high") false) ++ ", 7 vulnerabilities") = 2) := by
  have hproblem : ¬ " problem".toList <:+: "4 proble 1".toList := by decide +kernel
  have htold : ¬ TellsFound "found 3 packages, 9 vulnerabilities, found ".toList := by
    decide +kernel
  have hword : ∀ w ∈ some "high", IsWord w := by
    rintro w ⟨⟩
    exact ⟨by decide, List.all_eq_true.1 (by decide)⟩
  have hseam : ∀ c ∈ "found 40 low severity ".toList.getLast?, isDecimalDigit c = false := by
    rintro c ⟨⟩
    decide
  have hnoun : ¬ "vulnerabilit".toList <:+: "found 40 low severity ".toList := by decide +kernel
  have hfound : ¬ TellsFound ("found 40 low severity " ++ ((2 : Count).text ++
      vulnerabilitiesText (some "high") false) ++ ", 7 vulnerabilities").toList := by
    decide +kernel
  refine ⟨⟨hproblem, by decide +kernel, ?_⟩, ⟨htold, ?_⟩, hword, hseam, hnoun, hfound,
    by decide +kernel, ?_⟩
  · exact tool_footers_read.1 5 2 1 true true false "4 proble 1" "\n" hproblem
  · exact tool_footers_read.2.1 12 _ " (1 low)" htold
  · exact tool_footers_read.2.2 2 (some "high") false _ ", 7 vulnerabilities" hword hseam hnoun
      hfound

end BuildPipeline.Scrape
