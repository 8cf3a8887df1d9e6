import BuildPipeline.Proofs.PageShape

/-! The page of a report, read: its tables and lists give back the texts that went into them. -/
namespace BuildPipeline

/-! ### Numbers on a page -/

namespace Decimal

/-- The character is not one of those that numbers are written with. -/
def Foreign (c : Char) : Prop := c.isDigit = false ∧ c ∉ "-.NaNinf".toList

namespace Foreign
variable {c : Char} {n : Nat}

theorem ne_zero (h : Foreign c) : c ≠ '0' := by
  rintro rfl
  exact absurd h.1 (by decide)

theorem notMem_digitsOf (h : Foreign c) : c ∉ digitsOf n := fun hmem => by
  have hdigit := Nat.isDigit_of_mem_toDigits (by decide) (by decide) hmem
  exact absurd (h.1.symm.trans hdigit) (by decide)

theorem notMem_zeros (h : Foreign c) : c ∉ zeros n := fun hmem =>
  h.ne_zero (List.eq_of_mem_replicate hmem)

/-- Setting a point into digits. -/
theorem notMem_pointed (h : Foreign c) {ds : List Char} (hds : c ∉ ds) (k : Nat) :
    c ∉ ds.take k ++ '.' :: ds.drop k := by
  have hpoint : c ≠ '.' := fun hc => h.2 (by simp [hc])
  rw [List.mem_append, List.mem_cons, not_or, not_or]
  exact ⟨fun hmem => hds (List.mem_of_mem_take hmem), hpoint,
    fun hmem => hds (List.mem_of_mem_drop hmem)⟩

theorem notMem_positional (h : Foreign c) (s : Scaled) : c ∉ positional s := by
  have hpoint : c ≠ '.' := fun hc => h.2 (by simp [hc])
  unfold positional
  split
  · simp [h.notMem_digitsOf, h.notMem_zeros]
  · dsimp only
    split
    · exact h.notMem_pointed h.notMem_digitsOf _
    · simp [h.notMem_digitsOf, h.notMem_zeros, hpoint, h.ne_zero]

theorem notMem_text (h : Foreign c) {text : String} (htext : text.toList ⊆ "-.NaNinf".toList) :
    c ∉ text.toList :=
  fun hmem => h.2 (htext hmem)

theorem notMem_plain (h : Foreign c) (x : Float) : c ∉ (plain x).toList := by
  have hminus : c ≠ '-' := fun hc => h.2 (by simp [hc])
  unfold plain
  split
  · exact h.notMem_text (by decide)
  · split <;> exact h.notMem_text (by decide)
  · split <;> simp [hminus, h.ne_zero]
  · rw [String.toList_ofList, signed]
    split <;> simp [hminus, h.notMem_positional]

theorem notMem_fixed (h : Foreign c) (places : Nat) (x : Float) : c ∉ (fixed places x).toList := by
  unfold fixed
  split
  · dsimp only
    rw [String.toList_ofList]
    exact h.notMem_pointed (by simp [h.notMem_digitsOf, h.notMem_zeros]) _
  · exact h.notMem_plain x

end Foreign
end Decimal

namespace Page

/-! ### A page as its runs -/

theorem sound_badge {label color : String} (hl : '<' ∉ label.toList) (hc : '>' ∉ color.toList) :
    Sound (badge label color) := by
  simp [badge, hl, hc]

theorem notMem_append {c : Char} {a b : String} (ha : c ∉ a.toList) (hb : c ∉ b.toList) :
    c ∉ (a ++ b).toList := by
  rw [String.toList_append, List.mem_append]
  exact not_or.2 ⟨ha, hb⟩

theorem lt_notMem_style : '<' ∉ style.toList := by
  unfold style
  -- piece by piece, since the whole text is slow to go through
  refine notMem_append (notMem_append (notMem_append (notMem_append (notMem_append ?_ ?_) ?_) ?_)
    ?_) ?_
  all_goals decide +kernel

theorem notMem_seconds {c : Char} (h : Decimal.Foreign c) (hunit : c ≠ 's') (ms : Count) :
    c ∉ (seconds ms).toList :=
  notMem_append (h.notMem_fixed 2 _) (by simpa using hunit)

theorem foreign_lt : Decimal.Foreign '<' := by constructor <;> decide

theorem foreign_ampersand : Decimal.Foreign '&' := by constructor <;> decide

theorem sound_facts (r : Report) : Sound (facts r) := by
  have hseconds : '<' ∉ (seconds r.buildTimeMs).toList := notMem_seconds foreign_lt (by decide) _
  cases hr : r.revision <;> cases hb : r.buildNumber <;>
    simp [facts, hr, hb, List.intercalate, newLine, hseconds]

theorem sound_stepRow (s : StepResult) : Sound (stepRow s) := by
  have hbadge : Sound (badge s.status.text (stepColor s.status)) := by
    cases s.status <;> exact sound_badge (by decide) (by decide)
  have hdetail : Sound (detailCell s) := by
    cases hm : s.errorMessage <;> cases hs : s.detail.summary.isEmpty <;>
      simp [detailCell, hm, hs]
  have hseconds : '<' ∉ (seconds s.durationMs).toList := notMem_seconds foreign_lt (by decide) _
  simp [stepRow, row, cell, newLine, hbadge, hdetail, hseconds]

theorem sound_gateBody (r : Report) : Sound (gateBody r) := by
  unfold gateBody
  cases r.qualityGate with
  | none => simp [note, newLine]
  | some g =>
    have hrate : '<' ∉ (Decimal.plain g.passRate).toList := foreign_lt.notMem_plain _
    cases hp : g.passed <;>
      simp [hp, gateLine, badge, newLine, listItems, stepColor, hrate]

theorem sound_head (r : Report) : Sound (head r) := by
  have hstyle : Sound (element "style" "" [.layout style]) := by
    simp [lt_notMem_style]
  simp [head, newLine, hstyle]

theorem sound_pieces (r : Report) : Sound (pieces r) := by
  have hbadge : Sound (badge r.status.text (pipelineColor r.status)) := by
    cases r.status <;> exact sound_badge (by decide) (by decide)
  have hheading : Sound (heading r) := by
    simp [heading, newLine, hbadge]
  have hsteps : Sound (stepsBody r) := by
    simp [stepsBody, openTable, closeTable, headerRow, newLine, sound_stepRow]
  have hmetrics : Sound (metricsBody r) := by
    unfold metricsBody
    cases r.metrics.isEmpty <;>
      simp [note, openTable, closeTable, headerRow, metricRow, row, cell, newLine]
  have herrors : Sound (errorsBody r) := by
    simp [errorsBody, listItems, newLine]
  have hclosing : Sound closing := by simp [closing, newLine]
  have hpreface : Sound (preface r) := by
    simp only [preface, every_append]
    exact ⟨⟨sound_head r, hheading⟩, sound_facts r⟩
  have hsections : ∀ s ∈ sections r, Sound s.2 ∧ '<' ∉ s.1.toList := by
    unfold sections
    cases r.errors.isEmpty <;>
      simp [hsteps, hmetrics, sound_gateBody, herrors, hclosing]
  rw [pieces_eq]
  refine every_append.2 ⟨hpreface, every_flatMap.2 fun s hs => ?_⟩
  obtain ⟨hbody, htitle⟩ := hsections s hs
  simp [sectionTitle, newLine, hbody, htitle]

theorem runs_page (r : Report) : runs r.page = runsOf (pieces r) :=
  runs_render (sound_pieces r)

theorem tags_page (r : Report) : tags r.page = (Shape.of r).tags := by
  rw [tags, runs_page, tags_runsOf, tagsOf_pieces]

/-! ### Reading the sections of a page -/

theorem without_badge {names : List String} (label : String) {color : String}
    (h : ∀ tag ∈ badgeTags color, tag ∉ names) : Without names (badge label color) := by
  have hopen := h _ List.mem_cons_self
  have hclose := h ("/" ++ "span") (by simp [badgeTags])
  exact every_element.2 ⟨hopen, by simp, hclose⟩

theorem without_preface (r : Report) : Without ["h2"] (preface r) := by
  have hbadge : Without ["h2"] (badge r.status.text (pipelineColor r.status)) := by
    cases r.status <;> exact without_badge _ (by decide)
  have hfacts : Without ["h2"] (facts r) := by
    cases hr : r.revision <;> cases hb : r.buildNumber <;>
      simp [facts, hr, hb, List.intercalate, newLine]
  simp [preface, head, heading, newLine, hbadge, hfacts]

def stepCells (s : StepResult) : List (List Piece) :=
  [[.text s.name], badge s.status.text (stepColor s.status), [.layout (seconds s.durationMs)],
    detailCell s]

theorem without_stepCells (s : StepResult) :
    ∀ c ∈ stepCells s, Without ["h2", "tr", "/tr", "td", "/td"] c := by
  have hbadge : Without ["h2", "tr", "/tr", "td", "/td"]
      (badge s.status.text (stepColor s.status)) := by
    cases s.status <;> exact without_badge _ (by decide)
  have hdetail : Without ["h2", "tr", "/tr", "td", "/td"] (detailCell s) := by
    cases hm : s.errorMessage <;> cases hs : s.detail.summary.isEmpty <;>
      simp [detailCell, hm, hs]
  simp [stepCells, hbadge, hdetail]

theorem without_stepRow (s : StepResult) : Without ["h2"] (stepRow s) := by
  have hcells : ∀ c ∈ stepCells s, Without ["h2"] c := fun c hc =>
    (without_stepCells s c hc).mono (by simp)
  change Without ["h2"] (row (stepCells s))
  simpa [row, cell, newLine] using hcells

theorem without_sections (r : Report) : ∀ s ∈ sections r, Without ["h2"] s.2 := by
  have hsteps : Without ["h2"] (stepsBody r) := by
    simp [stepsBody, openTable, closeTable, headerRow, newLine, without_stepRow]
  have hmetrics : Without ["h2"] (metricsBody r) := by
    unfold metricsBody
    cases r.metrics.isEmpty <;>
      simp [note, openTable, closeTable, headerRow, metricRow, row, cell, newLine]
  have hgate : Without ["h2"] (gateBody r) := by
    unfold gateBody
    cases r.qualityGate with
    | none => simp [note, newLine]
    | some g =>
      cases hp : g.passed <;>
        simp [hp, gateLine, badge, newLine, listItems, stepColor]
  have herrors : Without ["h2"] (errorsBody r) := by
    simp [errorsBody, listItems, newLine]
  have hclosing : Without ["h2"] closing := by simp [closing, newLine]
  unfold sections
  cases r.errors.isEmpty <;> simp [hsteps, hmetrics, hgate, herrors, hclosing]

theorem sectionOf_page (r : Report) (title : String) :
    sectionOf title (runs r.page) =
      (((sections r).map fun s => (s.1, sectionRuns s.2)).lookup title).getD [] := by
  have hbefore : ⟨"h2", title⟩ ∉ runsOf (preface r) := fun hmem =>
    (without_preface r).tag_notMem _ hmem (by simp)
  have hplain : ∀ s ∈ sections r, '&' ∉ s.1.toList := by
    unfold sections
    cases r.errors.isEmpty <;> simp
  have hbodies : ∀ s ∈ (sections r).map fun s => (s.1, sectionRuns s.2),
      ∀ q ∈ s.2, q.tag ≠ "h2" := by
    intro s hs q hq
    obtain ⟨part, hpart, rfl⟩ := List.mem_map.1 hs
    rcases List.mem_cons.1 hq with rfl | hbody
    · simp
    · have htag := (without_sections r part hpart).tag_notMem q hbody
      simpa using htag
  rw [runs_page, pieces_eq, runsOf_append (lead_sections _), sectionOf_of_notMem hbefore,
    runsOf_sections hplain, ← sectionOf_flatMap title hbodies, List.flatMap_map]

theorem tableRows_sectionRuns (body : List Piece) :
    tableRows (sectionRuns body) = tableRows (runsOf body) := by
  rw [sectionRuns, tableRows, elements, if_neg (by simp)]
  rfl

theorem itemTexts_sectionRuns (body : List Piece) :
    itemTexts (sectionRuns body) = itemTexts (runsOf body) := by
  rw [sectionRuns, itemTexts, elements, if_neg (by simp)]
  rfl

theorem tableRows_table {α : Type} {cellsOf : α → List (List Piece)} {xs : List α}
    (h : ∀ x ∈ xs, ∀ c ∈ cellsOf x, Without ["tr", "/tr", "td", "/td"] c) (titles : List String) :
    tableRows (runsOf (openTable ++ headerRow titles ++ xs.flatMap (fun x => row (cellsOf x)) ++
      closeTable)) = [] :: xs.map fun x => (cellsOf x).map cellRuns := by
  have hopen (rest : List Piece) :
      tableRows (runsOf (openTable ++ rest)) = tableRows (runsOf rest) := by
    change tableRows (⟨"table", _⟩ :: runsOf rest) = _
    rw [tableRows, elements, if_neg (by simp)]
    rfl
  have hclose : tableRows (runsOf closeTable) = [] := by
    change tableRows [⟨"/table", _⟩] = []
    rw [tableRows, elements, if_neg (by simp)]
    rfl
  rw [List.append_assoc, List.append_assoc, hopen, tableRows_headerRow, tableRows_rows h, hclose,
    List.append_nil]

theorem cellRuns_badge {label : String} (h : '&' ∉ label.toList) (color : String) :
    ∃ first tag more, cellRuns (badge label color) = first :: ⟨tag, label⟩ :: more := by
  have hbadge := runsOf_element "span" (" class=\"badge\" style=\"background:" ++ color ++ "\"")
    [.layout label] []
  rw [shown_layout h, List.append_nil] at hbadge
  exact ⟨_, _, _, congrArg (_ :: ·) hbadge⟩

theorem cellRuns_detailCell (s : StepResult) :
    ∃ more, cellRuns (detailCell s) = ⟨"td", s.detail.summary⟩ :: more ∧
      (more.find? (·.tag = errorTag)).map Run.text = s.errorMessage := by
  cases hm : s.errorMessage <;> cases hs : s.detail.summary.isEmpty <;>
    simp [detailCell, hm, hs, element, errorTag, cellRuns, runsOf, shown, lead, Piece.render,
      unescape_escape]

def StepRow.of (s : StepResult) : StepRow :=
  ⟨s.name, s.status.text, seconds s.durationMs, s.detail.summary, s.errorMessage⟩

theorem ofCells_stepCells (s : StepResult) :
    StepRow.ofCells? ((stepCells s).map cellRuns) = some (.of s) := by
  have hplain : '&' ∉ s.status.text.toList := by cases s.status <;> decide
  obtain ⟨first, tag, after, hstatus⟩ := cellRuns_badge hplain (stepColor s.status)
  obtain ⟨more, hdetail, herror⟩ := cellRuns_detailCell s
  have hseconds : shown [.layout (seconds s.durationMs)] = seconds s.durationMs :=
    shown_layout (notMem_seconds foreign_ampersand (by decide) _)
  simp only [stepCells, List.map_cons, List.map_nil, hstatus, hdetail]
  simp [StepRow.ofCells?, cellRuns, herror, StepRow.of, hseconds]

theorem stepRows_page (r : Report) : stepRows r.page = r.steps.map StepRow.of := by
  have hlookup : ((sections r).map fun s => (s.1, sectionRuns s.2)).lookup "Steps" =
      some (sectionRuns (stepsBody r)) := rfl
  have hcells : ∀ s ∈ r.steps, ∀ c ∈ stepCells s, Without ["tr", "/tr", "td", "/td"] c :=
    fun s _ c hc => (without_stepCells s c hc).mono (by simp)
  have htable : tableRows (runsOf (stepsBody r)) =
      [] :: r.steps.map fun s => (stepCells s).map cellRuns := tableRows_table hcells _
  have hcompose : StepRow.ofCells? ∘ (fun s => (stepCells s).map cellRuns) =
      some ∘ StepRow.of := funext ofCells_stepCells
  rw [stepRows, sectionOf_page, hlookup, Option.getD_some, tableRows_sectionRuns, htable,
    List.filterMap_cons_none rfl, List.filterMap_map, hcompose, List.filterMap_eq_map]

def metricCells (e : String × Float) : List (List Piece) :=
  [[.text e.1], [.text (metricText e.1 e.2)]]

def shownMetrics (r : Report) : List (String × String) :=
  r.metrics.entries.map fun e => (e.1, metricText e.1 e.2)

theorem metricRows_page (r : Report) : metricRows r.page = shownMetrics r := by
  have hlookup : ((sections r).map fun s => (s.1, sectionRuns s.2)).lookup "Metrics" =
      some (sectionRuns (metricsBody r)) := rfl
  have hcells : ∀ e ∈ r.metrics.entries, ∀ c ∈ metricCells e,
      Without ["tr", "/tr", "td", "/td"] c := by simp [metricCells]
  have hcompose : metricOfCells? ∘ (fun e => (metricCells e).map cellRuns) =
      some ∘ fun e => (e.1, metricText e.1 e.2) := by
    funext e
    simp [metricOfCells?, metricCells, cellRuns]
  rw [metricRows, sectionOf_page, hlookup, Option.getD_some, tableRows_sectionRuns]
  cases hm : r.metrics.isEmpty with
  | true =>
    have hentries : r.metrics.entries = [] := List.isEmpty_iff.1 hm
    rw [metricsBody, if_pos hm, shownMetrics, hentries]
    rfl
  | false =>
    have htable : tableRows (runsOf (metricsBody r)) =
        [] :: r.metrics.entries.map fun e => (metricCells e).map cellRuns := by
      rw [metricsBody, if_neg (by simp [hm])]
      exact tableRows_table hcells _
    rw [htable, List.filterMap_cons_none rfl, List.filterMap_map, hcompose, List.filterMap_eq_map,
      shownMetrics]

theorem itemTexts_list {before after : List Piece} (hbefore : Without ["li"] before)
    (hafter : Without ["li"] after) (hlead : lead after = []) (items : List String) :
    itemTexts (runsOf (before ++ listItems items ++ after)) = items := by
  have hli {pieces : List Piece} (h : Without ["li"] pieces) :
      ∀ q ∈ runsOf pieces, q.tag ≠ "li" := fun q hq => by
    simpa using h.tag_notMem q hq
  have hstart : lead (listItems items ++ after) = [] := by
    cases items with
    | nil => exact hlead
    | cons item items => rfl
  have hskip : itemTexts (runsOf before ++ runsOf (listItems items ++ after)) =
      itemTexts (runsOf (listItems items ++ after)) := by
    rw [itemTexts, elements_of_notMem (hli hbefore)]
    rfl
  have hend : itemTexts (runsOf after) = [] := by
    rw [itemTexts, elements_eq_nil (hli hafter)]
    rfl
  rw [List.append_assoc, runsOf_append hstart, hskip, itemTexts_listItems, hend, List.append_nil]

def shownViolations : Option GateVerdict → List String
  | some g => if g.passed then [] else g.violations
  | none => []

theorem lookup_gate (r : Report) : ∃ after,
    ((sections r).map fun s => (s.1, sectionRuns s.2)).lookup "Quality gate" =
      some (sectionRuns (gateBody r ++ after)) ∧ Without ["li"] after := by
  unfold sections
  cases r.errors.isEmpty with
  | true => exact ⟨closing, rfl, by simp [closing, newLine]⟩
  | false => exact ⟨[], by rw [List.append_nil]; rfl, every_nil⟩

theorem violationItems_page (r : Report) :
    violationItems r.page = shownViolations r.qualityGate := by
  obtain ⟨after, hlookup, hafter⟩ := lookup_gate r
  rw [violationItems, sectionOf_page, hlookup, Option.getD_some, itemTexts_sectionRuns, gateBody]
  have hnone {pieces : List Piece} (h : Without ["li"] pieces) :
      itemTexts (runsOf (pieces ++ after)) = [] := by
    have hboth : Without ["li"] (pieces ++ after) := every_append.2 ⟨h, hafter⟩
    rw [itemTexts, elements_eq_nil fun q hq => by simpa using hboth.tag_notMem q hq]
    rfl
  cases r.qualityGate with
  | none => exact hnone (by simp [note, newLine])
  | some g =>
    cases hp : g.passed with
    | true =>
      rw [shownViolations, if_pos hp]
      simp only [hp, if_true]
      exact hnone (by simp [gateLine, badge, newLine, stepColor])
    | false =>
      rw [shownViolations, if_neg (by simp [hp])]
      simp only [hp, if_false, Bool.false_eq_true]
      rw [List.append_assoc]
      exact itemTexts_list (by simp [gateLine, badge, newLine, stepColor])
        (by simp [hafter, newLine]) rfl g.violations

theorem errorItems_page (r : Report) : errorItems r.page = r.errors := by
  rw [errorItems, sectionOf_page]
  cases he : r.errors.isEmpty with
  | true =>
    have hlookup : ((sections r).map fun s => (s.1, sectionRuns s.2)).lookup "Errors" = none := by
      rw [sections, if_pos he]
      rfl
    rw [hlookup, List.isEmpty_iff.1 he]
    rfl
  | false =>
    have hlookup : ((sections r).map fun s => (s.1, sectionRuns s.2)).lookup "Errors" =
        some (sectionRuns (errorsBody r ++ closing)) := by
      rw [sections, if_neg (by simp [he])]
      rfl
    rw [hlookup, Option.getD_some, itemTexts_sectionRuns, errorsBody, List.append_assoc]
    exact itemTexts_list (by simp [newLine]) (by simp [newLine, closing]) rfl r.errors

/-- No text of a report makes or hides a tag of its page, and the page shows the report's texts as
they are: each step's row, each metric, each violation of a gate that did not pass, and each
error. -/
theorem page_reads_back (r : Report) :
    tags r.page = (Shape.of r).tags ∧
    stepRows r.page = r.steps.map StepRow.of ∧
    metricRows r.page = shownMetrics r ∧
    violationItems r.page = shownViolations r.qualityGate ∧
    errorItems r.page = r.errors :=
  ⟨tags_page r, stepRows_page r, metricRows_page r, violationItems_page r, errorItems_page r⟩

end Page
end BuildPipeline
