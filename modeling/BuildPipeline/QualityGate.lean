import BuildPipeline.Decimal.Notation
import BuildPipeline.Report.Basic
import BuildPipeline.Settings.Basic

/-!
The quality gate: recorded metrics against thresholds. The decision uses the values as they are;
what a message shows is rounded to two decimals, but never up to the threshold that was missed.
The arithmetic is a parameter, so that the same gate can be read over doubles and over exact
fractions.
-/
namespace BuildPipeline

class Arithmetic (α : Type) where
  ofNat : Nat → α
  mul : α → α → α
  div : α → α → α
  atLeast : α → α → Bool
  /-- The nearest whole number, a half going away from zero. -/
  nearest : α → α
  floor : α → α

instance : Arithmetic Float where
  ofNat n := n.toUInt64.toFloat
  mul := (· * ·)
  div := (· / ·)
  atLeast a b := b ≤ a
  nearest := Decimal.nearestWhole
  floor := Decimal.floorWhole

instance : Arithmetic Rat where
  ofNat n := (n : Rat)
  mul := (· * ·)
  div := (· / ·)
  atLeast a b := b ≤ a
  nearest a := if 0 ≤ a then ((a + 1 / 2).floor : Rat) else -((-a + 1 / 2).floor : Rat)
  floor a := (a.floor : Rat)

namespace QualityGate
variable {α : Type} [Arithmetic α]

open Arithmetic

def hundred : α := ofNat 100

/-- Two decimals, a half going away from zero. -/
def round2 (value : α) : α := div (nearest (mul value hundred)) hundred

def floor2 (value : α) : α := div (floor (mul value hundred)) hundred

/-- How a value that missed a threshold is shown: never as having met it. -/
def shownBelow (actual threshold : α) : α :=
  if atLeast (round2 actual) threshold then floor2 actual else round2 actual

def isMet (t : Threshold α) (actual : α) : Bool :=
  match t.comparison with
  | .atLeast => atLeast actual t.value

/-- A recorded metric; one that was never recorded counts as zero. -/
def recorded (metrics : SortedMap α) (name : String) : α := (metrics.get? name).getD (ofNat 0)

/-- Passed tests in percent of all, or of one if there were none. -/
def rawPassRate (metrics : SortedMap α) : α :=
  let total := recorded metrics Metric.testsTotal
  div (mul (recorded metrics Metric.testsPassed) hundred)
    (if atLeast total (ofNat 1) then total else ofNat 1)

def passRate (metrics : SortedMap α) : α := round2 (rawPassRate metrics)

inductive Violation (α : Type)
  | coverage (category : String) (shown threshold : α)
  | passRate (shown threshold : α)
  deriving DecidableEq

def coverageViolation? (metrics : SortedMap α) (entry : String × Threshold α) :
    Option (Violation α) :=
  let actual := recorded metrics (Metric.coverage entry.1)
  if isMet entry.2 actual then none
  else some (.coverage entry.1 (shownBelow actual entry.2.value) entry.2.value)

def passRateViolation? (metrics : SortedMap α) (t : Threshold α) : Option (Violation α) :=
  let actual := rawPassRate metrics
  if isMet t actual then none else some (.passRate (shownBelow actual t.value) t.value)

/-- Every criterion missed: coverage in category order, then the pass rate. -/
def violations (metrics : SortedMap α) (t : Thresholds α) : List (Violation α) :=
  t.coverage.entries.filterMap (coverageViolation? metrics) ++
    (passRateViolation? metrics t.passRate).toList

def Violation.message : Violation Float → String
  | .coverage category shown threshold =>
    category ++ " coverage " ++ Decimal.plain shown ++ "% below threshold " ++
      Decimal.plain threshold ++ "%"
  | .passRate shown threshold =>
    "test pass rate " ++ Decimal.plain shown ++ "% below threshold " ++
      Decimal.plain threshold ++ "%"

def evaluate (metrics : SortedMap Float) (t : Thresholds Float) : GateVerdict :=
  let missed := violations metrics t
  ⟨missed.isEmpty, passRate metrics, missed.map Violation.message⟩

end QualityGate
end BuildPipeline
