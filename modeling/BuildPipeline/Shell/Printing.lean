import BuildPipeline.Decimal.Places
import BuildPipeline.Shell.Bytes

/-!
The texts of the two printing commands: arguments with escapes, and formats with directives.
-/
namespace BuildPipeline.Shell.Printing

abbrev bytesOf := Bytes.ofText

def isOctal (c : Char) : Bool := '0' ≤ c && c ≤ '7'

def octalValue (digits : List Char) : Nat :=
  digits.foldl (fun n c => n * 8 + (c.toNat - '0'.toNat)) 0

def letterByte? (c : Char) : Option UInt8 :=
  match c with
  | '\\' => some 92
  | 'a' => some 7
  | 'b' => some 8
  | 'e' => some 27
  | 'f' => some 12
  | 'n' => some 10
  | 'r' => some 13
  | 't' => some 9
  | 'v' => some 11
  | _ => none

/-- What follows a backslash: up to three octal digits or a letter. Any other backslash stands for
itself. -/
def escaped (cs : List Char) : UInt8 × List Char :=
  let digits := (cs.take 3).takeWhile isOctal
  if !digits.isEmpty then (UInt8.ofNat (octalValue digits), cs.drop digits.length)
  else match cs with
    | c :: rest => match letterByte? c with
      | some b => (b, rest)
      | none => (92, c :: rest)
    | [] => (92, [])

/-- An argument with escapes, and whether one of them ends all output. -/
def unescape (budget : Nat) (cs : List Char) : Bytes × Bool :=
  match budget, cs with
  | 0, _ | _, [] => ([], false)
  | _ + 1, '\\' :: 'c' :: _ => ([], true)
  | n + 1, '\\' :: rest =>
    let rest := match rest with
      | '0' :: d :: more => if isOctal d then d :: more else rest
      | rest => rest
    let (b, rest) := escaped rest
    let (more, stop) := unescape n rest
    (b :: more, stop)
  | n + 1, c :: rest =>
    let (more, stop) := unescape n rest
    (bytesOf c.toString ++ more, stop)

def unescaped (s : String) : Bytes × Bool := unescape (s.length + 1) s.toList

def echoArguments : List String → Bytes × Bool
  | [] => ([], false)
  | [a] => unescaped a
  | a :: rest =>
    let (bytes, stop) := unescaped a
    if stop then (bytes, true)
    else
      let (more, stop) := echoArguments rest
      (bytes ++ 32 :: more, stop)

/-- What is echoed: arguments and a line feed, unless that is turned off. -/
def echo (arguments : List String) : Bytes :=
  let quiet := arguments.head? == some "-n"
  let (bytes, stop) := echoArguments (if quiet then arguments.drop 1 else arguments)
  if quiet || stop then bytes else bytes ++ [10]

/-! ### Formats -/

structure Directive where
  flags : List Char
  /-- A count that is not given is the value of an argument. -/
  width : Option Nat
  precision : Option (Option Nat)
  kind : Option Char
  /-- The directive as it is written. -/
  text : String

def numberOf (digits : List Char) : Nat := ((String.ofList digits).toNat?).getD 0

/-- A count, or a star in its place. -/
def readCount (cs : List Char) : Option Nat × List Char :=
  match cs with
  | '*' :: rest => (none, rest)
  | cs =>
    let digits := cs.takeWhile Char.isDigit
    (some (numberOf digits), cs.drop digits.length)

def readDirective (cs : List Char) : Directive × List Char :=
  let flags := cs.takeWhile "#-+ 0".toList.contains
  let (width, rest) := readCount (cs.drop flags.length)
  let (precision, rest) := match rest with
    | '.' :: rest =>
      let (count, rest) := readCount rest
      (some count, rest)
    | rest => (none, rest)
  let text := String.ofList ('%' :: cs.take (cs.length - rest.length + 1))
  (⟨flags, width, precision, rest.head?, text⟩, rest.drop 1)

structure Layout where
  flags : List Char
  width : Nat
  precision : Option Nat

namespace Layout

def pad (d : Layout) (bytes : Bytes) : Bytes :=
  let missing := List.replicate (d.width - bytes.length) (32 : UInt8)
  if d.flags.contains '-' then bytes ++ missing else missing ++ bytes

def sign (d : Layout) (negative : Bool) : String :=
  if negative then "-" else if d.flags.contains '+' then "+"
  else if d.flags.contains ' ' then " " else ""

/-- Digits with what stands before them, and zeros between the two. -/
def digits (d : Layout) (before : String) (zeros : Bool) (ds : List Char) (least : Nat) : Bytes :=
  let least := if zeros && d.flags.contains '0' && !d.flags.contains '-'
    then max least (d.width - before.length) else least
  let filled := List.replicate (least - ds.length) '0' ++ ds
  d.pad (bytesOf (before ++ String.ofList filled))

def signed (d : Layout) (n : Int) : Bytes :=
  let ds := if n = 0 && d.precision = some 0 then [] else Nat.toDigits 10 n.natAbs
  d.digits (d.sign (n < 0)) d.precision.isNone ds (d.precision.getD 0)

def unsigned (d : Layout) (base : Nat) (mark : String) (n : Nat) : Bytes :=
  let ds := if n = 0 && d.precision = some 0 then [] else Nat.toDigits base n
  let marked := d.flags.contains '#' && n ≠ 0
  if base = 8 && marked then
    d.digits "" d.precision.isNone ('0' :: ds) (d.precision.getD 0)
  else d.digits (if marked then mark else "") d.precision.isNone ds (d.precision.getD 0)

def real (d : Layout) (style : Decimal.Style) (x : Float) : Bytes :=
  let (negative, ds) := Decimal.styled style (d.precision.getD 6) (d.flags.contains '#') x
  d.digits (d.sign negative) (Decimal.isFinite x) ds 0

def bytes (d : Layout) (bs : Bytes) : Bytes :=
  d.pad (match d.precision with
    | some n => bs.take n
    | none => bs)

end Layout

def upper (bs : Bytes) : Bytes := bs.map fun b => if 97 ≤ b && b ≤ 122 then b - 32 else b

/-- A numeric argument as far as it is a number: its value, and what follows it. A zero at the
front makes it octal, and an x after that hexadecimal. -/
def readInteger (cs : List Char) : Option (Int × List Char) :=
  let cs := cs.dropWhile Char.isWhitespace
  let (negative, cs) := match cs with
    | '-' :: rest => (true, rest)
    | '+' :: rest => (false, rest)
    | rest => (false, rest)
  let isHex (c : Char) : Bool := c.isDigit || ('a' ≤ c.toLower && c.toLower ≤ 'f')
  let value (base : Nat) (digits : List Char) : Nat :=
    digits.foldl
      (fun n c => n * base + (if c.isDigit then c.toNat - 48 else c.toLower.toNat - 87)) 0
  let signed (n : Nat) : Int := if negative then -(n : Int) else n
  let octal := cs.takeWhile isOctal
  let decimal := cs.takeWhile Char.isDigit
  match cs with
  | '0' :: x :: rest =>
    let digits := rest.takeWhile isHex
    if (x = 'x' || x = 'X') && !digits.isEmpty then
      some (signed (value 16 digits), rest.drop digits.length)
    else some (signed (value 8 octal), cs.drop octal.length)
  | cs =>
    if decimal.isEmpty then none else some (signed (value 10 decimal), cs.drop decimal.length)

/-- A whole number in decimal; nothing else is one. -/
def integer? (s : String) : Option Int :=
  let cs := s.toList.dropWhile Char.isWhitespace
  let (negative, digits) := match cs with
    | '-' :: rest => (true, rest)
    | '+' :: rest => (false, rest)
    | rest => (false, rest)
  let digits := (digits.reverse.dropWhile Char.isWhitespace).reverse
  if digits.isEmpty || !digits.all Char.isDigit then none
  else some (if negative then Int.negOfNat (numberOf digits) else (numberOf digits : Int))

structure Printed where
  bytes : Array UInt8 := #[]
  complaints : List String := []
  status : Nat := 0
  arguments : List String
  /-- Whether an escape or a fault ended all output. -/
  stopped : Bool := false

namespace Printed

def add (p : Printed) (bytes : Bytes) : Printed := { p with bytes := p.bytes ++ bytes }

def next (p : Printed) : String × Printed :=
  (p.arguments.headD "", { p with arguments := p.arguments.drop 1 })

def complain (p : Printed) (text : String) (status : Nat) : Printed :=
  { p with complaints := p.complaints ++ [text], status := status }

def quotedNumber? (a : String) : Option Nat :=
  match a.toList with
  | '\'' :: rest | '"' :: rest => some ((bytesOf (String.ofList rest)).headD 0).toNat
  | _ => none

def integer (p : Printed) (least most : Int) : Int × Printed :=
  let (a, p) := p.next
  match quotedNumber? a, readInteger a.toList with
  | some n, _ => (n, p)
  | none, some (n, rest) =>
    let p := if rest.isEmpty then p else p.complain (a ++ ": not completely converted") 1
    if n < least || most < n then
      (max least (min most n), p.complain (a ++ ": Numerical result out of range") 1)
    else (n, p)
  | none, none =>
    (0, if a.isEmpty then p else p.complain (a ++ ": expected numeric value") 1)

def real (p : Printed) : Float × Printed :=
  let (a, p) := p.next
  match quotedNumber? a, Decimal.readNumber a.toList with
  | some n, _ => (n.toUInt64.toFloat, p)
  | none, some (x, rest) =>
    (x, if rest.isEmpty then p else p.complain (a ++ ": not completely converted") 1)
  | none, none =>
    (0, if a.isEmpty then p else p.complain (a ++ ": expected numeric value") 1)

def largest : Int := 0x7FFFFFFFFFFFFFFF

def wordBound : Int := 0x10000000000000000

def signed (p : Printed) (d : Layout) : Printed :=
  let (n, p) := p.integer (-largest - 1) largest
  p.add (d.signed n)

def unsigned (p : Printed) (write : Nat → Bytes) : Printed :=
  let (n, p) := p.integer (1 - wordBound) (wordBound - 1)
  p.add (write (n % wordBound).toNat)

/-- The layout that a directive asks for; stars take arguments. -/
def layout (p : Printed) (d : Directive) : Layout × Printed :=
  let count (p : Printed) : Option Nat → Int × Printed
    | some n => (n, p)
    | none => p.integer (-largest) largest
  let (width, p) := count p d.width
  let flags := if width < 0 then '-' :: d.flags else d.flags
  match d.precision with
  | none => (⟨flags, width.natAbs, none⟩, p)
  | some given =>
    let (precision, p) := count p given
    (⟨flags, width.natAbs, if precision < 0 then none else some precision.toNat⟩, p)

def direct (p : Printed) (d : Directive) : Printed :=
  let (l, p) := p.layout d
  let real (style : Decimal.Style) (large : Bool) : Printed :=
    let (x, p) := p.real
    p.add ((if large then upper else id) (l.real style x))
  match d.kind with
  | some 's' => let (a, p) := p.next; p.add (l.bytes (bytesOf a))
  | some 'b' =>
    let (a, p) := p.next
    let (bytes, stop) := unescaped a
    { p.add (l.bytes bytes) with stopped := stop }
  | some 'c' => let (a, p) := p.next; p.add (l.pad [(bytesOf a).headD 0])
  | some 'd' | some 'i' => p.signed l
  | some 'u' => p.unsigned (l.unsigned 10 "")
  | some 'o' => p.unsigned (l.unsigned 8 "0")
  | some 'x' => p.unsigned (l.unsigned 16 "0x")
  | some 'X' => p.unsigned fun n => upper (l.unsigned 16 "0x" n)
  | some 'f' => real .fixed false
  | some 'F' => real .fixed true
  | some 'e' => real .exponential false
  | some 'E' => real .exponential true
  | some 'g' => real .general false
  | some 'G' => real .general true
  | some _ => { p.complain (d.text ++ ": invalid directive") 2 with stopped := true }
  | none => { p.complain "missing format character" 2 with stopped := true }

/-- Goes through a format once. -/
def round (budget : Nat) (format : List Char) (p : Printed) : Printed :=
  match budget, format with
  | 0, _ | _, [] => p
  | n + 1, '\\' :: rest =>
    let (b, rest) := escaped rest
    round n rest (p.add [b])
  | n + 1, '%' :: '%' :: rest => round n rest (p.add [37])
  | n + 1, '%' :: rest =>
    let (d, rest) := readDirective rest
    let p := p.direct d
    if p.stopped then p else round n rest p
  | n + 1, c :: rest => round n rest (p.add (bytesOf c.toString))

def rounds (budget : Nat) (format : List Char) (p : Printed) : Printed :=
  match budget with
  | 0 => p
  | n + 1 =>
    let after := round (format.length + 1) format p
    if after.stopped || after.arguments.isEmpty ||
        after.arguments.length = p.arguments.length then after
    else rounds n format after

end Printed

def printf (format : String) (arguments : List String) : Printed :=
  Printed.rounds (arguments.length + 1) format.toList { arguments := arguments }

end BuildPipeline.Shell.Printing
