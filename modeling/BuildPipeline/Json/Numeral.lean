import BuildPipeline.Json.Basic

/-!
Numbers in documents. A whole number that fits a machine word stays whole; any other is a double
made from the digits that fit one word and a power of ten, a single rounding each for the digits
and for the scaling.
-/
namespace BuildPipeline.Json

structure Numeral where
  negative : Bool
  whole : List Char
  fraction : Option (List Char)
  exponent : Option (Bool × List Char)

def isDigit (c : Char) : Bool := '0' ≤ c && c ≤ '9'

def digitValue (c : Char) : Nat := c.toNat - '0'.toNat

def digitsValue (digits : List Char) : Nat :=
  digits.foldl (fun n c => n * 10 + digitValue c) 0

namespace Numeral

def readExponent : List Char → Option (Bool × List Char)
  | c :: rest =>
    let (negative, digits) :=
      if c = '-' then (true, rest) else if c = '+' then (false, rest) else (false, c :: rest)
    if digits.isEmpty || !digits.all isDigit then none else some (negative, digits)
  | [] => none

def readTail (negative : Bool) (whole rest : List Char) : Option Numeral :=
  match rest with
  | [] => some ⟨negative, whole, none, none⟩
  | '.' :: rest =>
    let digits := rest.takeWhile isDigit
    if digits.isEmpty then none
    else match rest.dropWhile isDigit with
      | [] => some ⟨negative, whole, some digits, none⟩
      | c :: rest =>
        if c = 'e' ∨ c = 'E' then
          (readExponent rest).map fun e => ⟨negative, whole, some digits, some e⟩
        else none
  | c :: rest =>
    if c = 'e' ∨ c = 'E' then
      (readExponent rest).map fun e => ⟨negative, whole, none, some e⟩
    else none

/-- Reads a number; a zero at the front stands alone. -/
def read (text : List Char) : Option Numeral :=
  let (negative, rest) := match text with
    | '-' :: rest => (true, rest)
    | rest => (false, rest)
  let whole := rest.takeWhile isDigit
  let tail := rest.dropWhile isDigit
  if whole.isEmpty || (whole.head? == some '0' && whole.length != 1) then none
  else readTail negative whole tail

structure Significand where
  value : Nat
  /-- Digits before the point that no longer fit. -/
  dropped : Nat
  /-- Digits after the point that were gathered. -/
  places : Nat
  full : Bool

def wordBound : Nat := 0x10000000000000000

def Significand.addWhole (s : Significand) (c : Char) : Significand :=
  let value := s.value * 10 + digitValue c
  if s.dropped = 0 ∧ value < wordBound then { s with value := value }
  else { s with dropped := s.dropped + 1 }

def Significand.addPlace (s : Significand) (c : Char) : Significand :=
  let value := s.value * 10 + digitValue c
  if !s.full && value < wordBound then { s with value := value, places := s.places + 1 }
  else { s with full := true }

def significand (n : Numeral) : Significand :=
  (n.fraction.getD []).foldl Significand.addPlace
    (n.whole.foldl Significand.addWhole ⟨0, 0, 0, false⟩)

def powerOfTen (e : Nat) : Float := Float.ofScientific 1 false e

/-- `x · 10^e`, in steps that a double's range allows; a result beyond it is none. -/
def scale (x : Float) (e : Int) : Option Float :=
  if e.natAbs ≤ 308 then
    if 0 ≤ e then
      let y := x * powerOfTen e.natAbs
      if y.isInf then none else some y
    else some (x / powerOfTen e.natAbs)
  else if x == 0 then some x
  else if 0 ≤ e then none
  else scale (x / powerOfTen 308) (e + 308)
  termination_by e.natAbs
  decreasing_by omega

/-- An exponent from which on no number of digits keeps a double from being zero or too large. -/
def exponentBound : Nat := 0x80000000

/-- The number that the digits of an exponent write, which counts no further than it matters. -/
def exponentValue (digits : List Char) : Nat :=
  digits.foldl (fun n c => if exponentBound ≤ n then n else n * 10 + digitValue c) 0

def signedExponent : Option (Bool × List Char) → Int
  | none => 0
  | some (true, digits) => Int.negOfNat (exponentValue digits)
  | some (false, digits) => exponentValue digits

def double? (n : Numeral) : Option Float :=
  let s := n.significand
  let e := signedExponent n.exponent + s.dropped - s.places
  let x := s.value.toUInt64.toFloat
  (if s.value = 0 then some x else scale x e).map fun y => if n.negative then -y else y

def isPlainWhole (n : Numeral) : Bool := n.fraction.isNone && n.exponent.isNone

def wordDigits : Nat := 20

/-- A whole number within a machine word, signed or not; minus zero is not one. -/
def integer? (n : Numeral) : Option Int :=
  let value := digitsValue (n.whole.take wordDigits)
  if !n.isPlainWhole || wordDigits < n.whole.length then none
  else if n.negative then
    if 1 ≤ value ∧ value ≤ 0x8000000000000000 then some (Int.negOfNat value) else none
  else if value < wordBound then some value else none

def toJson (n : Numeral) : Json :=
  match n.integer? with
  | some i => .integer i
  | none => match n.double? with
    | some x => .double x
    | none => .unsound

end Numeral
end BuildPipeline.Json
