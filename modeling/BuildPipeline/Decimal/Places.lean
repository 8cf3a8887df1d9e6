import BuildPipeline.Decimal.Notation

/-!
Numbers written with a chosen count of digits: after the point, after the first digit, or in all.
-/
namespace BuildPipeline.Decimal

def pointed (places : Nat) (digits : List Char) : List Char :=
  let ds := zeros (places + 1 - digits.length) ++ digits
  if places = 0 then ds else ds.take (ds.length - places) ++ '.' :: ds.drop (ds.length - places)

def fixedPlaces (places n d : Nat) : List Char :=
  pointed places (digitsOf (roundEven (n * Nat.pow 10 places) d))

/-- The power of ten at the first digit of `n / d`. -/
def firstPower (n d : Nat) : Int :=
  if n = 0 then 0
  else
    let guess : Int := (digitsOf n).length - (digitsOf d).length
    let isBelow : Bool :=
      if 0 ≤ guess then n < d * Nat.pow 10 guess.natAbs else n * Nat.pow 10 guess.natAbs < d
    if isBelow then guess - 1 else guess

/-- The first digits of `n / d`, as many as asked for and rounded, and the power of ten at the
first of them. -/
def firstDigits (count n d : Nat) : List Char × Int :=
  let power := firstPower n d
  let shift : Int := count - 1 - power
  let rounded := if 0 ≤ shift then roundEven (n * Nat.pow 10 shift.natAbs) d
    else roundEven n (d * Nat.pow 10 shift.natAbs)
  let ds := digitsOf rounded
  if count < ds.length then (ds.take count, power + 1)
  else (zeros (count - ds.length) ++ ds, power)

def powerText (power : Int) : List Char :=
  let ds := digitsOf power.natAbs
  'e' :: (if power < 0 then '-' else '+') :: (zeros (2 - ds.length) ++ ds)

def exponentialPlaces (places n d : Nat) : List Char :=
  let (ds, power) := firstDigits (places + 1) n d
  ds.take 1 ++ (if places = 0 then [] else '.' :: ds.drop 1) ++ powerText power

/-- Without zeros at the end of what follows a point, nor a point at the end. -/
def withoutEndZeros (ds : List Char) : List Char :=
  if ds.contains '.' then
    let kept := (ds.reverse.dropWhile (· = '0')).reverse
    if kept.getLast? = some '.' then kept.dropLast else kept
  else ds

/-- So many digits in all, in the shorter of the two ways; zeros at the end are kept on request. -/
def generalDigits (count : Nat) (keepZeros : Bool) (n d : Nat) : List Char :=
  let count := max count 1
  let (ds, power) := firstDigits count n d
  let trim (ds : List Char) : List Char := if keepZeros then ds else withoutEndZeros ds
  if -4 ≤ power && power < count then
    trim (fixedPlaces (count - 1 - power).toNat n d)
  else
    trim (ds.take 1 ++ (if count = 1 then [] else '.' :: ds.drop 1)) ++ powerText power

inductive Style
  | fixed
  | exponential
  | general
  deriving DecidableEq

def styled (style : Style) (count : Nat) (keepZeros : Bool) (x : Float) : Bool × List Char :=
  match Double.of x with
  | .nan => (false, "nan".toList)
  | .infinite negative => (negative, "inf".toList)
  | .finite negative m e =>
    let (n, d) := ratio m e
    (negative, match style with
      | .fixed => fixedPlaces count n d
      | .exponential => exponentialPlaces count n d
      | .general => generalDigits count keepZeros n d)

/-- A text as a number as far as it is one: optional sign, digits with a point, and a power of
ten. Also tells what follows. -/
def readNumber (cs : List Char) : Option (Float × List Char) :=
  let cs := cs.dropWhile Char.isWhitespace
  let (negative, cs) := match cs with
    | '-' :: rest => (true, rest)
    | '+' :: rest => (false, rest)
    | rest => (false, rest)
  let whole := cs.takeWhile Char.isDigit
  let rest := cs.drop whole.length
  let (places, rest) := match rest with
    | '.' :: more => (more.takeWhile Char.isDigit, more.dropWhile Char.isDigit)
    | rest => ([], rest)
  if whole.isEmpty && places.isEmpty then none
  else
    let value (ds : List Char) : Nat := ds.foldl (fun n c => n * 10 + (c.toNat - 48)) 0
    let (power, rest) : Int × List Char := match rest with
      | e :: more =>
        if e = 'e' || e = 'E' then
          let (minus, ds) := match more with
            | '-' :: ds => (true, ds)
            | '+' :: ds => (false, ds)
            | ds => (false, ds)
          let digits := ds.takeWhile Char.isDigit
          if digits.isEmpty then (0, rest)
          else (if minus then -(value digits : Int) else value digits, ds.drop digits.length)
        else (0, rest)
      | [] => (0, rest)
    let power := max (-1000) (min 1000 power) - places.length
    let x := Float.ofScientific (value (whole ++ places)) (power < 0) power.natAbs
    some (if negative then -x else x, rest)

end BuildPipeline.Decimal
