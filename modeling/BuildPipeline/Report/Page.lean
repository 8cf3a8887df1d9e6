import BuildPipeline.Decimal.Notation
import BuildPipeline.Report.Basic

/-!
Reports as pages. A page is a sequence of tags and of texts between them. A text of the report is
escaped when the page is written, so that it can never be read as a tag.
-/
namespace BuildPipeline

namespace Page

inductive Piece
  /-- A tag without its angle brackets. -/
  | tag (inner : String)
  /-- Text that is written as it is: the page's own, and numbers. -/
  | layout (text : String)
  /-- Text of the report, which is escaped. -/
  | text (s : String)
  deriving DecidableEq

def escapeChar (c : Char) : List Char :=
  if c = '&' then "&amp;".toList
  else if c = '<' then "&lt;".toList
  else if c = '>' then "&gt;".toList
  else if c = '"' then "&quot;".toList
  else if c = '\'' then "&#39;".toList
  else [c]

def escape (s : String) : List Char := s.toList.flatMap escapeChar

def Piece.render : Piece → List Char
  | .tag inner => '<' :: inner.toList ++ ['>']
  | .layout t => t.toList
  | .text s => escape s

def render (pieces : List Piece) : String := String.ofList (pieces.flatMap Piece.render)

def newLine : Piece := .layout "\n"

def element (name attributes : String) (inner : List Piece) : List Piece :=
  .tag (name ++ attributes) :: inner ++ [.tag ("/" ++ name)]

def stepColor : StepStatus → String
  | .success => "#2e7d32"
  | .warning => "#f9a825"
  | .partly => "#ef6c00"
  | .failed => "#c62828"

def pipelineColor : PipelineStatus → String
  | .success => stepColor .success
  | .partly => stepColor .partly
  | .failed => stepColor .failed

def badge (label color : String) : List Piece :=
  element "span" (" class=\"badge\" style=\"background:" ++ color ++ "\"") [.layout label]

def seconds (ms : Count) : String := Decimal.fixed 2 (ms.toFloat / 1000) ++ "s"

def style : String :=
  "body\x7bfont-family:-apple-system,Segoe UI,Helvetica,Arial,sans-serif;margin:2rem;" ++
  "color:#212121\x7dtable\x7bborder-collapse:collapse;width:100%;margin-bottom:1.5rem\x7d" ++
  "th,td\x7bborder:1px solid #e0e0e0;padding:.4rem .6rem;text-align:left;" ++
  "vertical-align:top\x7dth\x7bbackground:#f5f5f5\x7d" ++
  ".badge\x7bcolor:#fff;border-radius:4px;padding:.1rem .5rem;font-weight:600;" ++
  "font-size:.85em\x7d.meta\x7bcolor:#616161\x7d.error\x7bcolor:#c62828\x7d"

def titleOf (r : Report) : String := r.project ++ " pipeline report"

def head (r : Report) : List Piece :=
  [.tag "!DOCTYPE html", newLine, .tag "html lang=\"en\"", newLine, .tag "head", newLine,
    .tag "meta charset=\"utf-8\"", newLine] ++
  element "title" "" [.text (titleOf r)] ++ newLine ::
  element "style" "" [.layout style] ++ [newLine, .tag "/head", newLine, .tag "body", newLine]

def heading (r : Report) : List Piece :=
  element "h1" "" (.text (titleOf r) :: .layout " " ::
    badge r.status.text (pipelineColor r.status)) ++ [newLine]

def facts (r : Report) : List Piece :=
  let required : List (List Piece) := [[.layout "Run ", .text r.runId],
    [.layout "started ", .text r.timestamp.offsetText],
    [.layout "build time ", .layout (seconds r.buildTimeMs)]]
  let revision := r.revision.toList.map fun s => [Piece.layout "revision ", Piece.text s]
  let build := r.buildNumber.toList.map fun s => [Piece.layout "build #", Piece.text s]
  element "p" " class=\"meta\""
    (List.intercalate [.layout " &middot; "] (required ++ revision ++ build)) ++ [newLine]

def cell (inner : List Piece) : List Piece := element "td" "" inner

def row (cells : List (List Piece)) : List Piece :=
  element "tr" "" (cells.flatMap cell) ++ [newLine]

def headerRow (titles : List String) : List Piece :=
  element "tr" "" (titles.flatMap fun t => element "th" "" [.layout t]) ++ [newLine]

def sectionTitle (title : String) : List Piece := element "h2" "" [.layout title] ++ [newLine]

def openTable : List Piece := [.tag "table", newLine]

def closeTable : List Piece := [.tag "/table", newLine]

def detailCell (s : StepResult) : List Piece :=
  let summary := s.detail.summary
  .text summary ::
    match s.errorMessage with
    | none => []
    | some m =>
      (if summary.isEmpty then [] else [.tag "br"]) ++
        element "span" " class=\"error\"" [.text m]

def stepRow (s : StepResult) : List Piece :=
  row [[.text s.name], badge s.status.text (stepColor s.status), [.layout (seconds s.durationMs)],
    detailCell s]

def stepsSection (r : Report) : List Piece :=
  sectionTitle "Steps" ++ openTable ++ headerRow ["Step", "Status", "Duration", "Detail"] ++
    r.steps.flatMap stepRow ++ closeTable

/-- Rates are shown in percent. -/
def metricText (name : String) (value : Float) : String :=
  if "coverage.".toList.isPrefixOf name.toList || name = Metric.passRate then
    Decimal.plain value ++ "%"
  else Decimal.plain value

def metricRow (e : String × Float) : List Piece :=
  row [[.text e.1], [.text (metricText e.1 e.2)]]

def note (text : String) : List Piece :=
  element "p" " class=\"meta\"" [.layout text] ++ [newLine]

def metricsSection (r : Report) : List Piece :=
  sectionTitle "Metrics" ++
    if r.metrics.isEmpty then note "No metrics recorded."
    else openTable ++ headerRow ["Metric", "Value"] ++ r.metrics.entries.flatMap metricRow ++
      closeTable

def listItems (items : List String) : List Piece :=
  items.flatMap fun item => element "li" "" [.text item] ++ [newLine]

def gateLine (label color : String) (g : GateVerdict) : List Piece :=
  element "p" "" (badge label color ++
    [.layout " pass rate ", .layout (Decimal.plain g.passRate), .layout "%"]) ++ [newLine]

def gateSection (r : Report) : List Piece :=
  sectionTitle "Quality gate" ++
    match r.qualityGate with
    | none => note "Not evaluated: the pipeline aborted."
    | some g =>
      if g.passed then gateLine "PASSED" (stepColor .success) g
      else gateLine "VIOLATED" (stepColor .partly) g ++
        [.tag "ul", newLine] ++ listItems g.violations ++ [.tag "/ul", newLine]

def errorsSection (r : Report) : List Piece :=
  if r.errors.isEmpty then []
  else sectionTitle "Errors" ++ [.tag "ul class=\"error\"", newLine] ++ listItems r.errors ++
    [.tag "/ul", newLine]

def pieces (r : Report) : List Piece :=
  head r ++ heading r ++ facts r ++ stepsSection r ++ metricsSection r ++ gateSection r ++
    errorsSection r ++ [.tag "/body", newLine, .tag "/html", newLine]

end Page

def Report.page (r : Report) : String := Page.render (Page.pieces r)

end BuildPipeline
