import BuildPipeline.Json.Document
import BuildPipeline.StepDetail

/-!
What is read from a project's own documents: coverage summaries and manifests. Neither ever fails;
a document of another form counts as holding nothing.
-/
namespace BuildPipeline.Scrape

/-- The percentage of one category; anything but a number counts as zero. -/
def percentage (total : Json) (category : String) : Float :=
  (((total.member? category).bind (·.member? "pct")).bind Json.double?).getD 0

/-- A coverage summary: the percentages below `total`, which must be an object. -/
def coverageSummary (text : String) : Option CoverageSummary :=
  match (Json.parseKept? text).bind (·.member? "total") with
  | some (.object members) =>
    let total := Json.object members
    some ⟨percentage total "statements", percentage total "branches",
      percentage total "functions", percentage total "lines"⟩
  | _ => none

def declared (manifest : Json) (key : String) : Count :=
  match manifest.member? key with
  | some (.object members) => Count.saturate (Json.distinctKeys members)
  | _ => 0

def dependencies (text : String) : Count × Count :=
  match Json.parseKept? text with
  | some manifest => (declared manifest "dependencies", declared manifest "devDependencies")
  | none => (0, 0)

def projectName? (text : String) : Option String :=
  ((Json.parseKept? text).bind (·.member? "name")).bind Json.string?

end BuildPipeline.Scrape
