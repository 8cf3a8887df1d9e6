/-!
The exact value of a double: sign, whole mantissa and power of two, and its roundings to
whole numbers.
-/
namespace BuildPipeline.Decimal

/-- What a double denotes; a finite one is `±mantissa · 2^exponent`. -/
inductive Double
  | nan
  | infinite (negative : Bool)
  | finite (negative : Bool) (mantissa : Nat) (exponent : Int)
  deriving DecidableEq, Repr

def hiddenBit : Nat := 0x10000000000000

def smallestExponent : Int := -1074

def Double.ofBits (bits : Nat) : Double :=
  let negative := bits / 0x8000000000000000 % 2 == 1
  let biased : Nat := bits / hiddenBit % 0x800
  let fraction : Nat := bits % hiddenBit
  if biased == 2047 then if fraction == 0 then .infinite negative else .nan
  else if biased == 0 then .finite negative fraction smallestExponent
  else .finite negative (fraction + hiddenBit) ((biased : Int) - 1075)

def Double.of (x : Float) : Double := .ofBits x.toBits.toNat

def isFinite (x : Float) : Bool :=
  match Double.of x with
  | .finite .. => true
  | _ => false

/-- A whole number of at most 2^53 with a sign, which a zero keeps. -/
def signedWhole (negative : Bool) (n : Nat) : Float :=
  let x := n.toUInt64.toFloat
  if negative then -x else x

/-- The nearest whole number, a half going away from zero. -/
def nearestWhole (x : Float) : Float :=
  match Double.of x with
  | .finite negative m e =>
    if 0 ≤ e then x
    else
      let unit := Nat.pow 2 e.natAbs
      signedWhole negative ((2 * m + unit) / (2 * unit))
  | _ => x

def floorWhole (x : Float) : Float :=
  match Double.of x with
  | .finite negative m e =>
    if 0 ≤ e then x
    else
      let unit := Nat.pow 2 e.natAbs
      signedWhole negative (if negative then (m + unit - 1) / unit else m / unit)
  | _ => x

/-- Numerator and denominator of `m · 2^e`. -/
def ratio (m : Nat) (e : Int) : Nat × Nat :=
  if 0 ≤ e then (m * Nat.pow 2 e.natAbs, 1) else (m, Nat.pow 2 e.natAbs)

end BuildPipeline.Decimal
