import BuildPipeline.Proofs.NumberScan
import BuildPipeline.Scrape.Tests

/-! The summary line of a test run, written and read: wherever it stands in the output, the counts
of its items are read back, whatever their order, as long as no other summary line follows. -/
namespace BuildPipeline

/-! ### Lines -/

namespace Text
variable {c : Char} {line before after rest : List Char}

theorem linePieces_feed (rest : List Char) :
    linePieces ('\n' :: rest) = ([], true) :: linePieces rest := rfl

theorem linePieces_cons (hc : c ≠ '\n') {piece : List Char} {ended : Bool}
    {more : List (List Char × Bool)} (h : linePieces rest = (piece, ended) :: more) :
    linePieces (c :: rest) = (c :: piece, ended) :: more := by
  rw [linePieces] at h ⊢
  rw [List.foldr_cons, h, if_neg hc]

theorem linePieces_singleton (hc : c ≠ '\n') : linePieces [c] = [([c], false)] := by
  rw [linePieces, List.foldr_cons, if_neg hc]
  rfl

theorem linePieces_ne_nil (h : rest ≠ []) : linePieces rest ≠ [] := by
  cases rest with
  | nil => exact absurd rfl h
  | cons c rest =>
    by_cases hc : c = '\n'
    · rw [hc, linePieces_feed]
      exact List.cons_ne_nil _ _
    · cases hrest : linePieces rest with
      | nil =>
        rw [linePieces, List.foldr_cons, if_neg hc, ← linePieces, hrest]
        exact List.cons_ne_nil _ _
      | cons piece more =>
        rw [linePieces_cons hc hrest]
        exact List.cons_ne_nil _ _

theorem linePieces_line (h : '\n' ∉ line) (rest : List Char) :
    linePieces (line ++ '\n' :: rest) = (line, true) :: linePieces rest := by
  induction line with
  | nil => rfl
  | cons c line ih =>
    rw [List.mem_cons, not_or] at h
    exact linePieces_cons (Ne.symm h.1) (ih h.2)

theorem linePieces_last (h : '\n' ∉ line) (hne : line ≠ []) :
    linePieces line = [(line, false)] := by
  induction line with
  | nil => exact absurd rfl hne
  | cons c line ih =>
    rw [List.mem_cons, not_or] at h
    by_cases hline : line = []
    · rw [hline]
      exact linePieces_singleton (Ne.symm h.1)
    · exact linePieces_cons (Ne.symm h.1) (ih h.2 hline)

/-- After a line feed the lines begin anew. -/
theorem linePieces_append (h : before = [] ∨ before.getLast? = some '\n') (text : List Char) :
    linePieces (before ++ text) = linePieces before ++ linePieces text := by
  induction before with
  | nil => rfl
  | cons c before ih =>
    by_cases hbefore : before = []
    · obtain rfl : c = '\n' := by simpa [hbefore] using h
      rw [hbefore]
      rfl
    · have hlast : before.getLast? = some '\n' := by
        obtain hnil | hlast := h
        · cases hnil
        · rwa [List.getLast?_cons_of_ne_nil hbefore] at hlast
      have ih := ih (.inr hlast)
      by_cases hc : c = '\n'
      · rw [hc, List.cons_append, linePieces_feed, linePieces_feed, ih, List.cons_append]
      · cases hpieces : linePieces before with
        | nil => exact absurd hpieces (linePieces_ne_nil hbefore)
        | cons piece more =>
          rw [hpieces, List.cons_append] at ih
          rw [List.cons_append, linePieces_cons hc ih, linePieces_cons hc hpieces, List.cons_append]

/-- A line that stands by itself in a text is one of its lines, and those after it are of the text
that follows. -/
theorem lines_around (hbefore : before = [] ∨ before.getLast? = some '\n') (hline : '\n' ∉ line)
    (hne : line ≠ []) (hreturn : line.getLast? ≠ some '\r')
    (hafter : after = [] ∨ after.head? = some '\n') :
    ∃ later, lines (before ++ (line ++ after)) = lines before ++ line :: later ∧
      ∀ l ∈ later, l ∈ lines after := by
  have hkept (ended : Bool) : withoutReturn (line, ended) = line := by
    simp [withoutReturn, hreturn]
  obtain rfl | hhead := hafter
  · refine ⟨[], ?_, by simp⟩
    rw [List.append_nil, lines, linePieces_append hbefore, linePieces_last hline hne,
      List.map_append, List.map_singleton, hkept]
    rfl
  · obtain ⟨rest, rfl⟩ : ∃ rest, after = '\n' :: rest := by
      cases after with
      | nil => cases hhead
      | cons c rest =>
        cases hhead
        exact ⟨rest, rfl⟩
    refine ⟨lines rest, ?_, fun l hl => ?_⟩
    · rw [lines, linePieces_append hbefore, linePieces_line hline, List.map_append, List.map_cons,
        hkept]
      rfl
    · rw [lines, linePieces_feed, List.map_cons]
      exact List.mem_cons_of_mem _ hl

end Text

namespace Scrape

/-! ### The items of a summary -/

inductive SummaryItem
  | passed
  | failed
  | skipped
  | todo
  | total
  deriving DecidableEq

namespace SummaryItem

def noun : SummaryItem → String
  | passed => " passed"
  | failed => " failed"
  | skipped => " skipped"
  | todo => " todo"
  | total => " total"

def text (number : SummaryItem → Count) (item : SummaryItem) : String :=
  (number item).text ++ item.noun

def texts (number : SummaryItem → Count) (items : List SummaryItem) : String :=
  String.intercalate ", " (items.map (text number))

end SummaryItem

/-- A summary line: any white space at its front, and blanks before its items. -/
def summaryLine (indent : String) (spaces : Nat) (number : SummaryItem → Count)
    (items : List SummaryItem) : String :=
  indent ++ "Tests:" ++ String.ofList (List.replicate spaces ' ') ++ SummaryItem.texts number items

namespace SummaryItem
variable {number : SummaryItem → Count}

theorem toList_texts_cons (number : SummaryItem → Count) (item : SummaryItem)
    (rest : List SummaryItem) :
    ∃ comma : List Char, (∀ c ∈ comma, c = ',' ∨ c = ' ') ∧
      (texts number (item :: rest)).toList = (number item).text.toList ++
        (item.noun.toList ++ (comma ++ (texts number rest).toList)) := by
  cases rest with
  | nil => exact ⟨[], by simp, by simp [texts, text]⟩
  | cons next more =>
    refine ⟨[',', ' '], by simp, ?_⟩
    rw [texts, List.map_cons, String.intercalate_cons_of_ne_nil (by simp)]
    simp [texts, text]

/-- No item's noun begins another's. -/
theorem exactly_noun (item k : SummaryItem) (rest : List Char) :
    (exactly k.noun (item.noun.toList ++ rest)).isSome = decide (k = item) := by
  have hprefix : k.noun.toList.isPrefixOf (item.noun.toList ++ rest) = decide (k = item) := by
    cases k <;> cases item <;> rfl
  rw [exactly, hprefix]
  by_cases h : k = item <;> simp [h]

theorem isDecimalDigit_of_mem_noun {item : SummaryItem} {c : Char} (h : c ∈ item.noun.toList) :
    Text.isDecimalDigit c = false :=
  isDecimalDigit_of_any (by cases item <;> decide) h

/-- The number before a noun is that of its item, if the item is there. -/
theorem find?_texts (number : SummaryItem → Count) (items : List SummaryItem) (k : SummaryItem) :
    ((numbers (texts number items).toList).find?
        fun n => (exactly k.noun n.after).isSome).map (·.digits) =
      if k ∈ items then some (number k).text.toList else none := by
  induction items with
  | nil =>
    rw [show (texts number []).toList = [] from rfl, numbers_nil]
    simp
  | cons item rest ih =>
    obtain ⟨comma, hcomma, htext⟩ := toList_texts_cons number item rest
    have hbegins : BeginsOther (item.noun.toList ++ (comma ++ (texts number rest).toList)) := by
      cases item <;> exact beginsOther_cons (by decide) _
    have hskip : numbers (item.noun.toList ++ (comma ++ (texts number rest).toList)) =
        numbers (texts number rest).toList := by
      rw [numbers_append_of_not fun _ => isDecimalDigit_of_mem_noun, numbers_append_of_not]
      intro c hc
      obtain rfl | rfl := hcomma c hc <;> decide
    rw [htext, numbers_digits (Count.toList_text_ne_nil _)
      (fun _ => Count.isDecimalDigit_of_mem_text) hbegins, hskip, List.find?_cons]
    simp only [exactly_noun]
    by_cases hk : k = item
    · simp [hk]
    · simp [hk, ih]

/-- Within the items stand only digits, letters, commas and blanks. -/
theorem feed_notMem_texts (number : SummaryItem → Count) (items : List SummaryItem) {c : Char}
    (h : c ∈ (texts number items).toList) : c ≠ '\n' ∧ c ≠ '\r' := by
  induction items with
  | nil => simp [texts] at h
  | cons item rest ih =>
    obtain ⟨comma, hcomma, htext⟩ := toList_texts_cons number item rest
    rw [htext, List.mem_append, List.mem_append, List.mem_append] at h
    obtain h | h | h | h := h
    · have hdigit := Count.isDigit_of_mem_text h
      constructor <;> rintro rfl <;> exact absurd hdigit (by decide)
    · have hnoun : item.noun.toList.all (fun c => c != '\n' && c != '\r') = true := by
        cases item <;> decide
      simpa using List.all_eq_true.1 hnoun c h
    · obtain rfl | rfl := hcomma c h <;> decide
    · exact ih h

end SummaryItem

section Line
variable {indent : String} {spaces : Nat} {number : SummaryItem → Count} {items : List SummaryItem}

theorem toList_summaryLine (indent : String) (spaces : Nat) (number : SummaryItem → Count)
    (items : List SummaryItem) :
    (summaryLine indent spaces number items).toList = indent.toList ++ ("Tests:".toList ++
      (List.replicate spaces ' ' ++ (SummaryItem.texts number items).toList)) := by
  simp [summaryLine]

theorem isSummaryLine_summaryLine (hindent : ∀ c ∈ indent.toList, Text.isBlank c = true) :
    isSummaryLine (summaryLine indent spaces number items).toList = true := by
  rw [isSummaryLine, toList_summaryLine, Text.trimStart, List.dropWhile_append_of_pos hindent]
  rfl

theorem itemCount_summaryLine (hindent : ∀ c ∈ indent.toList, Text.isBlank c = true)
    (k : SummaryItem) : itemCount (summaryLine indent spaces number items).toList k.noun =
      if k ∈ items then number k else 0 := by
  have hskip : numbers (summaryLine indent spaces number items).toList =
      numbers (SummaryItem.texts number items).toList := by
    rw [toList_summaryLine,
      numbers_append_of_not fun c hc => Text.isDecimalDigit_of_isBlank (hindent c hc),
      numbers_append_of_not fun _ => isDecimalDigit_of_any (by decide),
      numbers_append_of_not fun c hc => by rw [List.eq_of_mem_replicate hc]; decide]
  rw [itemCount, hskip, SummaryItem.find?_texts]
  split
  · exact countOrZero_text _
  · rfl

theorem summaryLine_unbroken (hindent : '\n' ∉ indent.toList) :
    '\n' ∉ (summaryLine indent spaces number items).toList ∧
      (summaryLine indent spaces number items).toList.getLast? ≠ some '\r' := by
  have hrest : ∀ c ∈ "Tests:".toList ++ (List.replicate spaces ' ' ++
      (SummaryItem.texts number items).toList), c ≠ '\n' ∧ c ≠ '\r' := by
    intro c hc
    rw [List.mem_append, List.mem_append] at hc
    obtain hc | hc | hc := hc
    · have htests : "Tests:".toList.all (fun c => c != '\n' && c != '\r') = true := by decide
      simpa using List.all_eq_true.1 htests c hc
    · rw [List.eq_of_mem_replicate hc]
      decide
    · exact SummaryItem.feed_notMem_texts number items hc
  rw [toList_summaryLine]
  constructor
  · rw [List.mem_append, not_or]
    exact ⟨hindent, fun h => (hrest _ h).1 rfl⟩
  · rw [List.getLast?_append, List.getLast?_eq_some_getLast (by simp), Option.some_or]
    intro h
    exact (hrest _ (List.mem_of_getLast? (List.getLast?_eq_some_getLast (by simp)))).2
      (Option.some.inj h)

end Line

/-- The last summary line of an output is read: each item's number, and nothing for an item that is
not there. Skipped tests and those still to be written count as one, up to the largest count. -/
theorem jest_summary (number : SummaryItem → Count) (items : List SummaryItem)
    (indent before after : String) (spaces : Nat)
    (hindent : ∀ c ∈ indent.toList, Text.isBlank c = true ∧ c ≠ '\n')
    (hbefore : before.toList = [] ∨ before.toList.getLast? = some '\n')
    (hafter : after.toList = [] ∨ after.toList.head? = some '\n')
    (hlast : ∀ line ∈ Text.lines after.toList, ¬ "Tests:".toList <+: Text.trimStart line) :
    let given (item : SummaryItem) : Count := if item ∈ items then number item else 0
    let skipped : Count := .saturate ((given .skipped).toNat + (given .todo).toNat)
    jest (before ++ summaryLine indent spaces number items ++ after) = {
      passed := given .passed
      failed := given .failed
      skipped := skipped
      total := .saturate ((given .passed).toNat + (given .failed).toNat + skipped.toNat) } := by
  intro given skipped
  have hblank (c : Char) (hc : c ∈ indent.toList) : Text.isBlank c = true := (hindent c hc).1
  obtain ⟨hfeed, hreturn⟩ :=
    @summaryLine_unbroken indent spaces number items fun h => (hindent _ h).2 rfl
  have hne : (summaryLine indent spaces number items).toList ≠ [] := by simp [toList_summaryLine]
  obtain ⟨later, hlines, hlater⟩ := Text.lines_around hbefore hfeed hne hreturn hafter
  have hnone : later.reverse.find? isSummaryLine = none := by
    rw [List.find?_eq_none]
    intro l hl hsummary
    exact hlast l (hlater l (List.mem_reverse.1 hl)) (List.isPrefixOf_iff_prefix.1 hsummary)
  have hfound : (Text.lines (before ++ summaryLine indent spaces number items ++
      after).toList).reverse.find? isSummaryLine =
        some (summaryLine indent spaces number items).toList := by
    rw [String.toList_append, String.toList_append, List.append_assoc, hlines, List.reverse_append,
      List.reverse_cons, List.append_assoc, List.find?_append, hnone, Option.none_or,
      List.singleton_append, List.find?_cons_of_pos (isSummaryLine_summaryLine hblank)]
  have hcount (k : SummaryItem) : itemCount (summaryLine indent spaces number items).toList k.noun =
      given k := itemCount_summaryLine hblank k
  have hjest : jest (before ++ summaryLine indent spaces number items ++ after) =
      .ofParts (given .passed) (given .failed) ((given .skipped).add (given .todo)) := by
    rw [jest, hfound, ← hcount, ← hcount, ← hcount, ← hcount]
    rfl
  rw [hjest, TestCounts.ofParts, Count.add_add]
  rfl

def sampleRun : SummaryItem → Count
  | .passed => 9
  | .failed => 1
  | .skipped => 2
  | .todo => 3
  | .total => 13

theorem sampleRun_read :
    (∀ c ∈ "  ".toList, Text.isBlank c = true ∧ c ≠ '\n') ∧
    "Tests: 5 failed\n".toList.getLast? = some '\n' ∧ "\nTime: 3 s\n".toList.head? = some '\n' ∧
    (∀ line ∈ Text.lines "\nTime: 3 s\n".toList, ¬ "Tests:".toList <+: Text.trimStart line) ∧
    summaryLine "  " 3 sampleRun [.failed, .todo, .passed, .total] =
      "  Tests:   1 failed, 3 todo, 9 passed, 13 total" ∧
    jest ("Tests: 5 failed\n" ++ summaryLine "  " 3 sampleRun [.failed, .todo, .passed, .total] ++
      "\nTime: 3 s\n") = ⟨9, 1, 3, 13⟩ := by
  have hindent : ∀ c ∈ "  ".toList, Text.isBlank c = true ∧ c ≠ '\n' := by
    intro c hc
    obtain rfl : c = ' ' := by simpa using hc
    decide
  have hlast : ∀ line ∈ Text.lines "\nTime: 3 s\n".toList,
      ¬ "Tests:".toList <+: Text.trimStart line := by decide
  exact ⟨hindent, rfl, rfl, hlast, by decide,
    jest_summary sampleRun [.failed, .todo, .passed, .total] "  " "Tests: 5 failed\n"
      "\nTime: 3 s\n" 3 hindent (.inr rfl) (.inr rfl) hlast⟩

end Scrape
end BuildPipeline
