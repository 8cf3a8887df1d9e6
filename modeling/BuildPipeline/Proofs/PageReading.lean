import BuildPipeline.Proofs.PageRuns

/-! Sections, table rows and list items among the runs of a page, and how they are found among the
pieces that the page is written from. -/
namespace BuildPipeline.Page

/-! ### Sections, rows and items -/

def sectionOf (title : String) : List Run → List Run
  | [] => []
  | r :: rest =>
    if r = ⟨"h2", title⟩ then rest.takeWhile (·.tag != "h2") else sectionOf title rest

/-- The elements of a kind: the run that opens each of them, and what follows up to its end. -/
def elements (name : String) : List Run → List (List Run)
  | [] => []
  | r :: rest =>
    if r.tag = name then (r :: rest.takeWhile (·.tag != "/" ++ name)) :: elements name rest
    else elements name rest

def tableRows (rs : List Run) : List (List (List Run)) :=
  (elements "tr" rs).map (elements "td")

def itemTexts (rs : List Run) : List String :=
  (elements "li" rs).filterMap fun item => item.head?.map Run.text

structure StepRow where
  name : String
  status : String
  duration : String
  summary : String
  error : Option String
  deriving DecidableEq

def errorTag : String := "span class=\"error\""

def StepRow.ofCells? : List (List Run) → Option StepRow
  | [name :: _, _ :: status :: _, duration :: _, summary :: more] =>
    some ⟨name.text, status.text, duration.text, summary.text,
      (more.find? (·.tag = errorTag)).map Run.text⟩
  | _ => none

def metricOfCells? : List (List Run) → Option (String × String)
  | [name :: _, value :: _] => some (name.text, value.text)
  | _ => none

def stepRows (page : String) : List StepRow :=
  (tableRows (sectionOf "Steps" (runs page))).filterMap StepRow.ofCells?

def metricRows (page : String) : List (String × String) :=
  (tableRows (sectionOf "Metrics" (runs page))).filterMap metricOfCells?

def violationItems (page : String) : List String :=
  itemTexts (sectionOf "Quality gate" (runs page))

def errorItems (page : String) : List String := itemTexts (sectionOf "Errors" (runs page))

theorem elements_of_notMem {name : String} {rs : List Run} (h : ∀ r ∈ rs, r.tag ≠ name)
    (rest : List Run) : elements name (rs ++ rest) = elements name rest := by
  induction rs with
  | nil => rfl
  | cons r rs ih =>
    have hr : r.tag ≠ name := h r List.mem_cons_self
    have hrs := ih fun q hq => h q (List.mem_cons_of_mem r hq)
    rw [List.cons_append, elements, if_neg hr, hrs]

theorem elements_eq_nil {name : String} {rs : List Run} (h : ∀ r ∈ rs, r.tag ≠ name) :
    elements name rs = [] := by
  rw [← List.append_nil rs, elements_of_notMem h]
  rfl

theorem slash_ne (name : String) : "/" ++ name ≠ name := by
  intro h
  have hlength := congrArg String.length h
  rw [String.length_append] at hlength
  have hslash : "/".length = 1 := by decide
  omega

theorem elements_element {name : String} {inner : List Piece}
    (h : Without [name, "/" ++ name] inner) (rest : List Piece) :
    elements name (runsOf (element name "" inner ++ rest)) =
      (⟨name, shown inner⟩ :: runsOf inner) :: elements name (runsOf rest) := by
  have hinner := h.tag_notMem
  have hopen : ∀ r ∈ runsOf inner, r.tag ≠ name := fun r hr => by
    have hnot := hinner r hr
    simp only [List.mem_cons, not_or] at hnot
    exact hnot.1
  have hclose : ∀ r ∈ runsOf inner, (r.tag != "/" ++ name) = true := fun r hr => by
    have hnot := hinner r hr
    simp only [List.mem_cons, not_or] at hnot
    exact bne_iff_ne.2 hnot.2.1
  have htake : (runsOf inner ++ ⟨"/" ++ name, shown rest⟩ :: runsOf rest).takeWhile
      (·.tag != "/" ++ name) = runsOf inner := by
    rw [List.takeWhile_append_of_pos hclose]
    simp
  rw [runsOf_element, String.append_empty, elements, if_pos rfl, htake, elements_of_notMem hopen,
    elements, if_neg (slash_ne name)]

def cellRuns (inner : List Piece) : List Run := ⟨"td", shown inner⟩ :: runsOf inner

theorem elements_cells {cells : List (List Piece)}
    (h : ∀ c ∈ cells, Without ["td", "/td"] c) :
    elements "td" (runsOf (cells.flatMap cell)) = cells.map cellRuns := by
  induction cells with
  | nil => rfl
  | cons c rest ih =>
    have hc : Without ["td", "/" ++ "td"] c := h c List.mem_cons_self
    have hrest := ih fun d hd => h d (List.mem_cons_of_mem c hd)
    rw [List.flatMap_cons, cell, elements_element hc, hrest]
    rfl

theorem tableRows_row {cells : List (List Piece)}
    (h : ∀ c ∈ cells, Without ["tr", "/tr", "td", "/td"] c) (rest : List Piece) :
    tableRows (runsOf (row cells ++ rest)) =
      cells.map cellRuns :: tableRows (runsOf rest) := by
  have hcells : ∀ c ∈ cells, Without ["td", "/td"] c := fun c hc => (h c hc).mono (by simp)
  have hinner : Without ["tr", "/" ++ "tr"] (cells.flatMap cell) := by
    have hc : ∀ c ∈ cells, Without ["tr", "/tr"] c := fun c hc => (h c hc).mono (by simp)
    simpa [cell, element] using hc
  have hrow : elements "td" (⟨"tr", shown (cells.flatMap cell)⟩ :: runsOf (cells.flatMap cell)) =
      cells.map cellRuns := by
    rw [elements, if_neg (by simp), elements_cells hcells]
  rw [row, List.append_assoc, tableRows, elements_element hinner, List.map_cons, hrow]
  rfl

theorem tableRows_rows {α : Type} {cellsOf : α → List (List Piece)} {xs : List α}
    (h : ∀ x ∈ xs, ∀ c ∈ cellsOf x, Without ["tr", "/tr", "td", "/td"] c) (rest : List Piece) :
    tableRows (runsOf (xs.flatMap (fun x => row (cellsOf x)) ++ rest)) =
      xs.map (fun x => (cellsOf x).map cellRuns) ++ tableRows (runsOf rest) := by
  induction xs with
  | nil => rfl
  | cons x xs ih =>
    have hx := h x List.mem_cons_self
    have hxs := ih fun y hy => h y (List.mem_cons_of_mem x hy)
    rw [List.flatMap_cons, List.append_assoc, tableRows_row hx, hxs]
    rfl

theorem tableRows_headerRow (titles : List String) (rest : List Piece) :
    tableRows (runsOf (headerRow titles ++ rest)) = [] :: tableRows (runsOf rest) := by
  let inner := titles.flatMap fun t => element "th" "" [.layout t]
  have hinner : Without ["tr", "/" ++ "tr"] inner := by simp [inner, element]
  have htd : Without ["td"] inner := by simp [inner, element]
  have hcells : ∀ r ∈ (⟨"tr", shown inner⟩ : Run) :: runsOf inner, r.tag ≠ "td" := by
    have htags := htd.tag_notMem
    simpa using htags
  rw [headerRow, List.append_assoc, tableRows, elements_element hinner, List.map_cons,
    elements_eq_nil hcells]
  rfl

theorem itemTexts_listItems (items : List String) (rest : List Piece) :
    itemTexts (runsOf (listItems items ++ rest)) = items ++ itemTexts (runsOf rest) := by
  induction items with
  | nil => rfl
  | cons item items ih =>
    have hitem : Without ["li", "/" ++ "li"] [.text item] := by simp
    have hhead : itemTexts (runsOf (listItems (item :: items) ++ rest)) =
        item :: itemTexts (runsOf (newLine :: listItems items ++ rest)) := by
      simp only [listItems, List.flatMap_cons, List.append_assoc, itemTexts,
        elements_element hitem]
      simp
    rw [hhead, List.cons_append]
    exact congrArg (item :: ·) ih

/-! ### Sections among the pieces -/

theorem sectionOf_of_notMem {title : String} {before : List Run} (h : ⟨"h2", title⟩ ∉ before)
    (rest : List Run) : sectionOf title (before ++ rest) = sectionOf title rest := by
  induction before with
  | nil => rfl
  | cons r before ih =>
    have hr : r ≠ ⟨"h2", title⟩ := fun heq => h (heq ▸ List.mem_cons_self)
    have hbefore := ih fun hmem => h (List.mem_cons_of_mem r hmem)
    rw [List.cons_append, sectionOf, if_neg hr, hbefore]

theorem sectionOf_flatMap (title : String) {secs : List (String × List Run)}
    (h : ∀ s ∈ secs, ∀ r ∈ s.2, r.tag ≠ "h2") :
    sectionOf title (secs.flatMap fun s => ⟨"h2", s.1⟩ :: s.2) =
      (secs.lookup title).getD [] := by
  induction secs with
  | nil => rfl
  | cons s rest ih =>
    obtain ⟨other, body⟩ := s
    have hbody : ∀ r ∈ body, r.tag ≠ "h2" := h (other, body) List.mem_cons_self
    have hrest := ih fun t ht => h t (List.mem_cons_of_mem (other, body) ht)
    rw [List.flatMap_cons, List.cons_append, sectionOf, List.lookup_cons]
    -- the first section of the title is taken, up to the heading after it
    by_cases ht : title = other
    · have hwithin : ∀ r ∈ body, (r.tag != "h2") = true := fun r hr => bne_iff_ne.2 (hbody r hr)
      have hstop : (rest.flatMap fun s => (⟨"h2", s.1⟩ :: s.2 : List Run)).takeWhile
          (·.tag != "h2") = [] := by
        cases rest <;> simp
      rw [if_pos (by rw [ht]), List.takeWhile_append_of_pos hwithin, hstop]
      simp [ht]
    · have hother : (title == other) = false := beq_false_of_ne ht
      have hnotMem : ⟨"h2", title⟩ ∉ body := fun hmem => hbody _ hmem rfl
      rw [if_neg (by simp [Ne.symm ht]), sectionOf_of_notMem hnotMem, hrest, hother]

def sectionRuns (body : List Piece) : List Run :=
  ⟨"/h2", shown (newLine :: body)⟩ :: runsOf body

theorem lead_sections (secs : List (String × List Piece)) :
    lead (secs.flatMap fun s => sectionTitle s.1 ++ s.2) = [] := by
  cases secs <;> rfl

theorem runsOf_sections {secs : List (String × List Piece)}
    (h : ∀ s ∈ secs, '&' ∉ s.1.toList) :
    runsOf (secs.flatMap fun s => sectionTitle s.1 ++ s.2) =
      secs.flatMap fun s => ⟨"h2", s.1⟩ :: sectionRuns s.2 := by
  induction secs with
  | nil => rfl
  | cons s rest ih =>
    have htitle := shown_layout (h s List.mem_cons_self)
    have hrest := ih fun t ht => h t (List.mem_cons_of_mem s ht)
    have hsection : runsOf (sectionTitle s.1 ++ s.2) = ⟨"h2", s.1⟩ :: sectionRuns s.2 := by
      rw [sectionTitle, List.append_assoc, runsOf_element, htitle]
      rfl
    rw [List.flatMap_cons, runsOf_append (lead_sections rest), hsection, hrest,
      List.flatMap_cons]

end BuildPipeline.Page
