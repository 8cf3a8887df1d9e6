import BuildPipeline.Proofs.PageReading

/-! The parts of a report's page, and its tags, which are told by the report's shape alone, whatever
texts it holds. -/
namespace BuildPipeline.Page

/-! ### The parts of a page -/

def closing : List Piece := [.tag "/body", newLine, .tag "/html", newLine]

def preface (r : Report) : List Piece := head r ++ heading r ++ facts r

def stepsBody (r : Report) : List Piece :=
  openTable ++ headerRow ["Step", "Status", "Duration", "Detail"] ++ r.steps.flatMap stepRow ++
    closeTable

def metricsBody (r : Report) : List Piece :=
  if r.metrics.isEmpty then note "No metrics recorded."
  else openTable ++ headerRow ["Metric", "Value"] ++ r.metrics.entries.flatMap metricRow ++
    closeTable

def gateBody (r : Report) : List Piece :=
  match r.qualityGate with
  | none => note "Not evaluated: the pipeline aborted."
  | some g =>
    if g.passed then gateLine "PASSED" (stepColor .success) g
    else gateLine "VIOLATED" (stepColor .partly) g ++
      [.tag "ul", newLine] ++ listItems g.violations ++ [.tag "/ul", newLine]

def errorsBody (r : Report) : List Piece :=
  [.tag "ul class=\"error\"", newLine] ++ listItems r.errors ++ [.tag "/ul", newLine]

/-- The sections with their titles; the last one goes on to the end of the page. -/
def sections (r : Report) : List (String × List Piece) :=
  [("Steps", stepsBody r), ("Metrics", metricsBody r)] ++
    if r.errors.isEmpty then [("Quality gate", gateBody r ++ closing)]
    else [("Quality gate", gateBody r), ("Errors", errorsBody r ++ closing)]

theorem pieces_eq (r : Report) :
    pieces r = preface r ++ (sections r).flatMap fun s => sectionTitle s.1 ++ s.2 := by
  have hsteps : stepsSection r = sectionTitle "Steps" ++ stepsBody r := by
    simp [stepsSection, stepsBody]
  have hmetrics : metricsSection r = sectionTitle "Metrics" ++ metricsBody r := rfl
  have hgate : gateSection r = sectionTitle "Quality gate" ++ gateBody r := rfl
  cases he : r.errors.isEmpty with
  | true => simp [pieces, preface, sections, he, hsteps, hmetrics, hgate, errorsSection, closing]
  | false =>
    have herrors : errorsSection r = sectionTitle "Errors" ++ errorsBody r := by
      simp [errorsSection, errorsBody, he]
    simp [pieces, preface, sections, he, hsteps, hmetrics, hgate, herrors, closing]

/-! ### The shape of a report -/

structure StepShape where
  status : StepStatus
  noSummary : Bool
  hasError : Bool
  deriving DecidableEq

inductive GateShape
  | absent
  | passed
  | violated (count : Nat)
  deriving DecidableEq

structure Shape where
  status : PipelineStatus
  steps : List StepShape
  metrics : Nat
  gate : GateShape
  errors : Nat
  deriving DecidableEq

def StepShape.of (s : StepResult) : StepShape :=
  ⟨s.status, s.detail.summary.isEmpty, s.errorMessage.isSome⟩

def GateShape.of : Option GateVerdict → GateShape
  | none => .absent
  | some g => if g.passed then .passed else .violated g.violations.length

def Shape.of (r : Report) : Shape :=
  ⟨r.status, r.steps.map StepShape.of, r.metrics.size, .of r.qualityGate, r.errors.length⟩

def badgeTags (color : String) : List String :=
  ["span" ++ (" class=\"badge\" style=\"background:" ++ color ++ "\""), "/span"]

def rowTags (cells : List (List String)) : List String :=
  "tr" :: cells.flatMap (fun c => "td" :: c ++ ["/td"]) ++ ["/tr"]

def tableTags (columns : Nat) (rows : List String) : List String :=
  "table" :: "tr" :: (List.replicate columns ["th", "/th"]).flatten ++ "/tr" :: rows ++ ["/table"]

def itemTags (count : Nat) : List String := (List.replicate count ["li", "/li"]).flatten

def noteTags : List String := ["p class=\"meta\"", "/p"]

def StepShape.tags (s : StepShape) : List String :=
  rowTags [[], badgeTags (stepColor s.status), [],
    if s.hasError then (if s.noSummary then [] else ["br"]) ++ [errorTag, "/span"] else []]

def GateShape.tags : GateShape → List String
  | .absent => noteTags
  | .passed => "p" :: badgeTags (stepColor .success) ++ ["/p"]
  | .violated count =>
    "p" :: badgeTags (stepColor .partly) ++ "/p" :: "ul" :: itemTags count ++ ["/ul"]

def Shape.tags (s : Shape) : List String :=
  ["!DOCTYPE html", "html lang=\"en\"", "head", "meta charset=\"utf-8\"", "title", "/title",
    "style", "/style", "/head", "body", "h1"] ++ badgeTags (pipelineColor s.status) ++ "/h1" ::
  noteTags ++ "h2" :: "/h2" :: tableTags 4 (s.steps.flatMap StepShape.tags) ++ "h2" :: "/h2" ::
  (if s.metrics = 0 then noteTags
    else tableTags 2 (List.replicate s.metrics (rowTags [[], []])).flatten) ++
  "h2" :: "/h2" :: s.gate.tags ++
  (if s.errors = 0 then []
    else "h2" :: "/h2" :: "ul class=\"error\"" :: itemTags s.errors ++ ["/ul"]) ++
  ["/body", "/html"]

/-! ### The tags of the pieces -/

def tagsOf (pieces : List Piece) : List String :=
  pieces.filterMap fun
    | .tag inner => some inner
    | _ => none

@[simp] theorem tagsOf_nil : tagsOf [] = [] := rfl

@[simp] theorem tagsOf_tag (inner : String) (rest : List Piece) :
    tagsOf (.tag inner :: rest) = inner :: tagsOf rest := rfl

@[simp] theorem tagsOf_layout (t : String) (rest : List Piece) :
    tagsOf (.layout t :: rest) = tagsOf rest := rfl

@[simp] theorem tagsOf_text (s : String) (rest : List Piece) :
    tagsOf (.text s :: rest) = tagsOf rest := rfl

@[simp] theorem tagsOf_append (a b : List Piece) : tagsOf (a ++ b) = tagsOf a ++ tagsOf b :=
  List.filterMap_append

theorem tagsOf_flatMap {α : Type} (f : α → List Piece) (xs : List α) :
    tagsOf (xs.flatMap f) = xs.flatMap fun x => tagsOf (f x) := by
  induction xs with
  | nil => rfl
  | cons x xs ih => rw [List.flatMap_cons, tagsOf_append, ih, List.flatMap_cons]

theorem tags_runsOf (pieces : List Piece) : (runsOf pieces).map Run.tag = tagsOf pieces := by
  induction pieces with
  | nil => rfl
  | cons p rest ih => cases p <;> simp [runsOf, ih]

theorem flatMap_const {α β : Type} (ys : List β) (xs : List α) :
    (xs.flatMap fun _ => ys) = (List.replicate xs.length ys).flatten := by
  induction xs with
  | nil => rfl
  | cons x xs ih => rw [List.flatMap_cons, ih, List.length_cons, List.replicate_succ,
      List.flatten_cons]

theorem tagsOf_facts (r : Report) : tagsOf (facts r) = noteTags := by
  cases hr : r.revision <;> cases hb : r.buildNumber <;>
    simp [facts, hr, hb, List.intercalate, element, newLine, noteTags]

theorem tagsOf_stepRow (s : StepResult) : tagsOf (stepRow s) = (StepShape.of s).tags := by
  cases hm : s.errorMessage <;> cases hs : s.detail.summary.isEmpty <;>
    simp [stepRow, row, cell, badge, element, newLine, detailCell, StepShape.tags, StepShape.of,
      rowTags, badgeTags, errorTag, hm, hs]

theorem tagsOf_listItems (items : List String) :
    tagsOf (listItems items) = itemTags items.length := by
  rw [listItems, tagsOf_flatMap, itemTags, ← flatMap_const]
  rfl

theorem tagsOf_metricRows (entries : List (String × Float)) :
    tagsOf (entries.flatMap metricRow) =
      (List.replicate entries.length (rowTags [[], []])).flatten := by
  rw [tagsOf_flatMap, ← flatMap_const]
  rfl

theorem tagsOf_gateBody (r : Report) : tagsOf (gateBody r) = (GateShape.of r.qualityGate).tags := by
  unfold gateBody GateShape.of
  cases r.qualityGate with
  | none => rfl
  | some g =>
    dsimp only
    cases hp : g.passed with
    | true => rfl
    | false =>
      simp [gateLine, badge, element, newLine, tagsOf_listItems, GateShape.tags, badgeTags]

theorem tagsOf_stepsBody (r : Report) :
    tagsOf (stepsBody r) = tableTags 4 ((r.steps.map StepShape.of).flatMap StepShape.tags) := by
  have hrows : tagsOf (r.steps.flatMap stepRow) =
      (r.steps.map StepShape.of).flatMap StepShape.tags := by
    rw [tagsOf_flatMap, List.flatMap_map]
    simp only [tagsOf_stepRow]
  rw [stepsBody, tagsOf_append, tagsOf_append, hrows]
  rfl

theorem tagsOf_metricsBody (r : Report) : tagsOf (metricsBody r) =
    if r.metrics.size = 0 then noteTags
    else tableTags 2 (List.replicate r.metrics.size (rowTags [[], []])).flatten := by
  unfold metricsBody SortedMap.isEmpty SortedMap.size
  cases he : r.metrics.entries with
  | nil => rfl
  | cons e rest =>
    rw [if_neg (by simp), if_neg (by simp), tagsOf_append, tagsOf_append, tagsOf_metricRows]
    rfl

theorem tagsOf_errorsSection (r : Report) : tagsOf (errorsSection r) =
    if r.errors.length = 0 then []
    else "h2" :: "/h2" :: "ul class=\"error\"" :: itemTags r.errors.length ++ ["/ul"] := by
  unfold errorsSection
  cases he : r.errors with
  | nil => rfl
  | cons error rest =>
    rw [if_neg (by simp), if_neg (by simp), tagsOf_append, tagsOf_append, tagsOf_append,
      tagsOf_listItems]
    rfl

theorem tagsOf_pieces (r : Report) : tagsOf (pieces r) = (Shape.of r).tags := by
  have hsteps : tagsOf (stepsSection r) = "h2" :: "/h2" :: tagsOf (stepsBody r) := by
    simp [stepsSection, stepsBody, sectionTitle, element, newLine]
  have hmetrics : tagsOf (metricsSection r) = "h2" :: "/h2" :: tagsOf (metricsBody r) := rfl
  have hgate : tagsOf (gateSection r) = "h2" :: "/h2" :: tagsOf (gateBody r) := rfl
  have hhead : tagsOf (head r) = ["!DOCTYPE html", "html lang=\"en\"", "head",
      "meta charset=\"utf-8\"", "title", "/title", "style", "/style", "/head", "body"] := by
    rfl
  have hheading : tagsOf (heading r) = "h1" :: badgeTags (pipelineColor r.status) ++ ["/h1"] := by
    rfl
  simp only [pieces, tagsOf_append, hhead, hheading, hsteps, hmetrics, hgate, tagsOf_facts,
    tagsOf_stepsBody, tagsOf_metricsBody, tagsOf_gateBody, tagsOf_errorsSection, Shape.tags,
    Shape.of, List.append_assoc, List.cons_append, List.nil_append]
  rfl

end BuildPipeline.Page
