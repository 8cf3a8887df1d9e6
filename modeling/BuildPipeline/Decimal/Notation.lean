import BuildPipeline.Decimal.Shortest

/-!
How doubles are written: plainly in messages and pages, with a mark of their kind in
documents, and with a fixed number of places for durations.
-/
namespace BuildPipeline.Decimal

def digitsOf (n : Nat) : List Char := Nat.toDigits 10 n

def zeros (n : Nat) : List Char := List.replicate n '0'

/-- Positional notation without a needless point. -/
def positional (s : Scaled) : List Char :=
  let ds := digitsOf s.digits
  if 0 ≤ s.exponent then ds ++ zeros s.exponent.natAbs
  else
    let places := s.exponent.natAbs
    if places < ds.length then
      ds.take (ds.length - places) ++ '.' :: ds.drop (ds.length - places)
    else '0' :: '.' :: zeros (places - ds.length) ++ ds

/-- The power of ten at the first digit. -/
def leadingExponent (s : Scaled) : Int := (digitsOf s.digits).length - 1 + s.exponent

def scientific (s : Scaled) : List Char :=
  let ds := digitsOf s.digits
  let e := leadingExponent s
  let mantissa := ds.take 1 ++ (if 1 < ds.length then '.' :: ds.drop 1 else [])
  mantissa ++ 'e' :: (if e < 0 then '-' else '+') :: digitsOf e.natAbs

def signed (negative : Bool) (text : List Char) : List Char :=
  if negative then '-' :: text else text

/-- The plain form: the shortest digits, positional at any size. -/
def plain (x : Float) : String :=
  match Double.of x with
  | .nan => "NaN"
  | .infinite negative => if negative then "-inf" else "inf"
  | .finite negative 0 _ => if negative then "-0" else "0"
  | .finite negative m e => String.ofList (signed negative (positional (shortest .up m e)))

/-- Powers of ten at the first digit for which a document writes a number positionally. -/
def documentPositional (e : Int) : Bool := -5 ≤ e && e < 16

def withPoint (s : Scaled) : List Char :=
  if 0 ≤ s.exponent then positional s ++ ['.', '0'] else positional s

/-- The form in documents, where a whole number keeps a decimal as a mark of its kind; what is
not finite has none. -/
def document? (x : Float) : Option String :=
  match Double.of x with
  | .nan | .infinite _ => none
  | .finite negative 0 _ => some (if negative then "-0.0" else "0.0")
  | .finite negative m e =>
    let s := shortest .even m e
    some (String.ofList (signed negative
      (if documentPositional (leadingExponent s) then withPoint s else scientific s)))

/-- `n / d` to whole numbers, a tie going to the even one. -/
def roundEven (n d : Nat) : Nat :=
  let q := n / d
  let rest := 2 * (n % d)
  if d < rest then q + 1
  else if rest = d then q + q % 2
  else q

/-- A number that is not negative with exactly `places` decimals, at least one. -/
def fixed (places : Nat) (x : Float) : String :=
  match Double.of x with
  | .finite _ m e =>
    let (n, d) := ratio m e
    let ds := digitsOf (roundEven (n * Nat.pow 10 places) d)
    let padded := zeros (places + 1 - ds.length) ++ ds
    String.ofList
      (padded.take (padded.length - places) ++ '.' :: padded.drop (padded.length - places))
  | _ => plain x

end BuildPipeline.Decimal
