import BuildPipeline.Time.Calendar
import BuildPipeline.Text.Blank

/-!
Moments in universal time and their RFC 3339 texts. Writing gives as many fraction digits as the
moment needs, in groups of three; reading also allows spaces between the parts, short numbers and
a year with a sign.
-/
namespace BuildPipeline

/-- A moment: a day since 1970-01-01, a second of it, and nanoseconds, which reach a second
second within a leap second. -/
structure Timestamp where
  day : Int
  second : Nat
  nanosecond : Nat
  deriving DecidableEq, Repr, Inhabited

namespace Timestamp

def epoch : Timestamp := ⟨0, 0, 0⟩

def billion : Nat := 1000000000

/-! ### Writing -/

def padded (width n : Nat) : List Char :=
  let ds := Nat.toDigits 10 n
  List.replicate (width - ds.length) '0' ++ ds

/-- A year of four digits; any other has a sign. -/
def yearText (year : Int) : List Char :=
  if 0 ≤ year ∧ year ≤ 9999 then padded 4 year.toNat
  else (if year < 0 then '-' else '+') :: padded 4 year.natAbs

def fractionText (nano : Nat) : List Char :=
  if nano = 0 then []
  else if nano % 1000000 = 0 then '.' :: padded 3 (nano / 1000000)
  else if nano % 1000 = 0 then '.' :: padded 6 (nano / 1000)
  else '.' :: padded 9 nano

def localText (t : Timestamp) : List Char :=
  let d := Date.ofDay t.day
  let extra := if billion ≤ t.nanosecond then 1 else 0
  yearText d.year ++ '-' :: padded 2 d.month ++ '-' :: padded 2 d.day ++
    'T' :: padded 2 (t.second / 3600) ++ ':' :: padded 2 (t.second / 60 % 60) ++
    ':' :: padded 2 (t.second % 60 + extra) ++ fractionText (t.nanosecond - extra * billion)

def documentText (t : Timestamp) : String := String.ofList (t.localText ++ ['Z'])

def offsetText (t : Timestamp) : String := String.ofList (t.localText ++ "+00:00".toList)

/-! ### Reading -/

def isDigit (c : Char) : Bool := '0' ≤ c && c ≤ '9'

def value (digits : List Char) : Nat :=
  digits.foldl (fun n c => n * 10 + (c.toNat - '0'.toNat)) 0

/-- Between one and `width` digits after optional space. -/
def readNumber (width : Nat) (text : List Char) : Option (Nat × List Char) :=
  let text := Text.trimStart text
  let digits := (text.take width).takeWhile isDigit
  if digits.isEmpty then none else some (value digits, text.drop digits.length)

/-- A year: with a sign it may have any number of digits. -/
def readYear (text : List Char) : Option (Int × List Char) :=
  let signed (text : List Char) : Option (Nat × List Char) :=
    let digits := text.takeWhile isDigit
    if digits.isEmpty then none else some (value digits, text.drop digits.length)
  match Text.trimStart text with
  | '-' :: rest => (signed rest).map fun r => (-(r.1 : Int), r.2)
  | '+' :: rest => (signed rest).map fun r => ((r.1 : Int), r.2)
  | rest => (readNumber 4 rest).map fun r => ((r.1 : Int), r.2)

def readSeparator (c : Char) (text : List Char) : Option (List Char) :=
  match Text.trimStart text with
  | x :: rest => if x = c then some rest else none
  | [] => none

/-- Nanoseconds after a point; digits beyond the ninth are dropped. -/
def readFraction : List Char → Option (Nat × List Char)
  | '.' :: rest =>
    let digits := (rest.take 9).takeWhile isDigit
    if digits.isEmpty then none
    else some (value digits * Nat.pow 10 (9 - digits.length), rest.dropWhile isDigit)
  | rest => some (0, rest)

def readPair : List Char → Option (Nat × List Char)
  | a :: b :: rest => if isDigit a && isDigit b then some (value [a, b], rest) else none
  | _ => none

def minusSign : Char := Char.ofNat 0x2212

/-- An offset in seconds, smaller than a day. -/
def readOffset (text : List Char) : Option (Int × List Char) :=
  match text with
  | 'Z' :: rest | 'z' :: rest => some (0, rest)
  | sign :: rest =>
    if sign = '+' ∨ sign = '-' ∨ sign = minusSign then
      match readPair rest with
      | none => none
      | some (hours, rest) =>
        match readPair (rest.dropWhile fun c => c = ':' || Text.isBlank c) with
        | none => none
        | some (minutes, rest) =>
          if minutes < 60 ∧ hours < 24 then
            let seconds : Int := hours * 3600 + minutes * 60
            some (if sign = '+' then seconds else -seconds, rest)
          else none
    else none
  | [] => none

def readZone (text : List Char) : Option (Int × List Char) :=
  if (text.take 3).map Char.toUpper = ['U', 'T', 'C'] then some (0, text.drop 3)
  else readOffset text

/-- The first and the last year that can be told. -/
def firstYear : Int := -262143

def lastYear : Int := 262142

/-- The moment when a clock with this offset shows this date and time. -/
def ofClock? (date : Date) (hour minute second nano : Nat) (offset : Int) : Option Timestamp :=
  if date.exists? && firstYear ≤ date.year && date.year ≤ lastYear &&
      hour < 24 && minute < 60 && second ≤ 60 then
    let leap := if second = 60 then 1 else 0
    let shown : Int := hour * 3600 + minute * 60 + (second - leap : Nat)
    let seconds := date.toDay * 86400 + shown - offset
    let day := seconds.fdiv 86400
    let year := (Date.ofDay day).year
    if firstYear ≤ year ∧ year ≤ lastYear then
      some ⟨day, (seconds - day * 86400).toNat, nano + leap * billion⟩
    else none
  else none

def read? (text : String) : Option Timestamp := do
  let (year, rest) ← readYear text.toList
  let rest ← readSeparator '-' rest
  let (month, rest) ← readNumber 2 rest
  let rest ← readSeparator '-' rest
  let (day, rest) ← readNumber 2 rest
  let rest ← match rest with
    | 'T' :: rest | 't' :: rest | ' ' :: rest => some rest
    | _ => none
  let (hour, rest) ← readNumber 2 rest
  let rest ← readSeparator ':' rest
  let (minute, rest) ← readNumber 2 rest
  let rest ← readSeparator ':' rest
  let (second, rest) ← readNumber 2 rest
  let (nano, rest) ← readFraction rest
  let (offset, rest) ← readZone (Text.trimStart rest)
  if (Text.trimStart rest).isEmpty then
    ofClock? ⟨year, month, day⟩ hour minute second nano offset
  else none

end Timestamp
end BuildPipeline
