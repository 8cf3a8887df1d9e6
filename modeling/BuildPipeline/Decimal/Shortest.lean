import BuildPipeline.Decimal.Double

/-!
The fewest decimal digits that read back as a given double, and among those the digits
nearest to it.
-/
namespace BuildPipeline.Decimal

/-- The number `digits · 10^exponent`. -/
structure Scaled where
  digits : Nat
  exponent : Int
  deriving DecidableEq, Repr

/-- Which of two equally near decimals is taken. -/
inductive Tie
  | up
  | even
  deriving DecidableEq, Repr

def Tie.goesUp : Tie → Nat → Bool
  | .up, _ => true
  | .even, below => below % 2 == 1

/-- The positive numbers that read as one double: `value / unit` lies between `low / unit` and
`high / unit`, whose ends belong to it when `closed`. -/
structure Basin where
  low : Nat
  value : Nat
  high : Nat
  unit : Nat
  closed : Bool

namespace Basin

/-- Around `m · 2^e` the basin reaches half way to either neighbour; below a power of two the
neighbour is twice as near. -/
def around (m : Nat) (e : Int) : Basin :=
  let scale := if 0 ≤ e then Nat.pow 2 e.natAbs else 1
  let unit := if 0 ≤ e then 4 else 4 * Nat.pow 2 e.natAbs
  let reach := if m = hiddenBit ∧ smallestExponent < e then 1 else 2
  { low := (4 * m - reach) * scale
    value := 4 * m * scale
    high := (4 * m + 2) * scale
    unit := unit
    closed := m % 2 == 0 }

def holds (b : Basin) (n d : Nat) : Bool :=
  if b.closed then b.low * d ≤ n * b.unit && n * b.unit ≤ b.high * d
  else b.low * d < n * b.unit && n * b.unit < b.high * d

def magnitude (b : Basin) : Int :=
  if b.unit ≤ b.value then ((Nat.toDigits 10 (b.value / b.unit)).length : Int) - 1
  else
    let inverse := (b.value + b.unit - 1) / b.value
    Int.negOfNat (Nat.toDigits 10 (inverse - 1)).length

/-- The value's neighbour on the grid of `places` digits that lies in the basin. -/
def onGrid? (b : Basin) (tie : Tie) (places : Nat) : Option Scaled :=
  let exponent := b.magnitude - places + 1
  let up := if 0 ≤ exponent then Nat.pow 10 exponent.natAbs else 1
  let down := if 0 ≤ exponent then 1 else Nat.pow 10 exponent.natAbs
  let below := b.value * down / (b.unit * up)
  let above := below + 1
  let hitBelow := b.holds (below * up) down
  let hitAbove := b.holds (above * up) down
  let rest := 2 * (b.value * down % (b.unit * up))
  let takeAbove :=
    if rest = b.unit * up then tie.goesUp below else decide (b.unit * up < rest)
  if hitBelow && (!hitAbove || !takeAbove) then some ⟨below, exponent⟩
  else if hitAbove then
    some (if above % 10 = 0 then ⟨above / 10, exponent + 1⟩ else ⟨above, exponent⟩)
  else none

end Basin

/-- The shortest decimal that reads back as `m · 2^e`, `m` positive; seventeen digits always
suffice. -/
def shortest (tie : Tie) (m : Nat) (e : Int) : Scaled :=
  let basin := Basin.around m e
  ((List.range 17).findSome? (fun n => basin.onGrid? tie (n + 1))).getD ⟨0, 0⟩

end BuildPipeline.Decimal
