import BuildPipeline.Scrape.Pattern

/-!
Counts in the output of vulnerability scanners and linters.
-/
namespace BuildPipeline.Scrape

/-- `found 3 vulnerabilities`. -/
def foundLine : Matcher (List Char) := fun text => do
  let (_, rest) ← exactly "found " text
  let (n, rest) ← digits rest
  let (_, rest) ← exactly " vulnerabilit" rest
  return (n, rest)

/-- `vulnerability` or `vulnerabilities`. -/
def vulnerabilityNoun : Matcher Unit := fun text => do
  let (_, rest) ← exactly "vulnerabilit" text
  match exactly "y" rest with
  | some found => some found
  | none => exactly "ies" rest

/-- A word and `severity `. -/
def severity : Matcher Unit := fun text => do
  let (_, rest) ← word text
  exactly " severity " rest

/-- What follows the number in `3 vulnerabilities` or `1 high severity vulnerability`. -/
def vulnerabilityTail : Matcher Unit := fun text => do
  let (_, rest) ← exactly " " text
  match (severity rest).bind fun found => vulnerabilityNoun found.2 with
  | some found => some found
  | none => vulnerabilityNoun rest

/-- The number of vulnerabilities, preferably from a line that says how many were found. -/
def vulnerabilities (text : String) : Count :=
  let chars := text.toList
  match (first? foundLine chars).bind count? with
  | some n => n
  | none =>
    let number? := (numbers chars).find? fun n => (vulnerabilityTail n.after).isSome
    countOrZero (number?.map (·.digits))

structure LintCounts where
  errors : Count
  warnings : Count
  deriving DecidableEq

/-- What follows the number in `5 problems (2 errors, 3 warnings)`, giving errors and warnings. -/
def problemTail : Matcher (List Char × List Char) := fun text => do
  let (_, rest) ← exactly " problem" text
  let (_, rest) ← exactly " (" (optionally 's' rest)
  let (errors, rest) ← digits rest
  let (_, rest) ← exactly " error" rest
  let (_, rest) ← exactly ", " (optionally 's' rest)
  let (warnings, rest) ← digits rest
  let (_, rest) ← exactly " warning" rest
  let (_, rest) ← exactly ")" (optionally 's' rest)
  return ((errors, warnings), rest)

/-- Errors and warnings of the first summary line. -/
def lintFindings (text : String) : LintCounts :=
  match (numbers text.toList).findSome? fun n => problemTail n.after with
  | none => ⟨0, 0⟩
  | some ((errors, warnings), _) => ⟨countOrZero (some errors), countOrZero (some warnings)⟩

end BuildPipeline.Scrape
