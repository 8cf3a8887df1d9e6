import BuildPipeline.Scrape.Pattern
import BuildPipeline.StepDetail
import BuildPipeline.Text.Lines

/-!
Test counts in the output of test runners.
-/
namespace BuildPipeline.Scrape

/-- The numbers before every occurrence of a word, added up; a runner may print one summary for
each file. -/
def sumBefore (noun : String) (text : List Char) : Count :=
  Count.sum <| (numbers text).filterMap fun n =>
    if (spaced noun n.after).isSome then count? n.digits else none

/-- Summaries of the form `3 passing`, `1 failing`, `2 pending`. -/
def mocha (text : String) : TestCounts :=
  let chars := text.toList
  .ofParts (sumBefore "passing" chars) (sumBefore "failing" chars) (sumBefore "pending" chars)

/-- Whether a line is a summary of the form `Tests: 1 failed, 9 passed, 10 total`. -/
def isSummaryLine (line : List Char) : Bool := "Tests:".toList.isPrefixOf (Text.trimStart line)

/-- The number right before a word of the summary line; zero if there is none. -/
def itemCount (line : List Char) (noun : String) : Count :=
  let number? := (numbers line).find? fun n => (exactly noun n.after).isSome
  countOrZero (number?.map (·.digits))

def jest (text : String) : TestCounts :=
  match (Text.lines text.toList).reverse.find? isSummaryLine with
  | none => .none
  | some line =>
    .ofParts (itemCount line " passed") (itemCount line " failed")
      ((itemCount line " skipped").add (itemCount line " todo"))

end BuildPipeline.Scrape
