import BuildPipeline.Shell.Expression
import BuildPipeline.Shell.Printing
import BuildPipeline.Shell.Tools.Basic

/-!
Programs that calculate: values of expressions, and sequences of numbers.
-/
namespace BuildPipeline.Shell.Tools

namespace Calculation

inductive Fault
  | missingAfter (word : String)
  | unexpected (word : String)
  | expectingClosing (word : Option String)
  | noInteger
  | division
  | badExpression (fault : Expression.Fault)

def Fault.message : Fault → String
  | .missingAfter word => "syntax error: missing argument after " ++ inQuotes word
  | .unexpected word => "syntax error: unexpected argument " ++ inQuotes word
  | .expectingClosing none => "syntax error: expecting ')'"
  | .expectingClosing (some word) => "syntax error: expecting ')' after " ++ inQuotes word
  | .noInteger => "non-integer argument"
  | .division => "division by zero"
  | .badExpression fault => fault.message

abbrev Result := Except Fault (String × List String)

def integer? (text : String) : Option Int :=
  let (negative, digits) := match text.toList with
    | '-' :: rest => (true, rest)
    | rest => (false, rest)
  if digits.isEmpty || !digits.all Char.isDigit then none
  else
    let n : Nat := digits.foldl (fun n c => n * 10 + (c.toNat - 48)) 0
    some (if negative then -(n : Int) else n)

/-- Whether a value counts as none. -/
def isNull (text : String) : Bool :=
  let digits := match text.toList with
    | '-' :: rest => rest
    | rest => rest
  text.isEmpty || (!digits.isEmpty && digits.all (· = '0'))

/-- What an expression matches at the front of a text: its first group, or its length. -/
def matched (text pattern : String) : Except Fault String :=
  match Expression.read false (Bytes.chars (Bytes.ofText pattern)) with
  | .error fault => .error (.badExpression fault)
  | .ok e =>
    let cs := (Bytes.chars (Bytes.ofText text)).toArray
    let hasGroup := (pattern.splitOn "\\(").length ≠ 1
    let bytes (cs : List Char) : String :=
      String.ofList (Text.decodeBytes (Bytes.ofChars cs))
    match Expression.matchAt cs false e 0 with
    | none => .ok (if hasGroup then "" else "0")
    | some h =>
      let m : Expression.Match := ⟨0, h.place, h.groups⟩
      .ok (if hasGroup then bytes (m.group cs 1) else toString h.place)

/-- Operators by how tightly they bind, the loosest first. -/
def levels : List (List String) :=
  [["|"], ["&"], ["<", "<=", "=", "==", "!=", ">=", ">"], ["+", "-"], ["*", "/", "%"], [":"]]

def numbers (a b : String) : Except Fault (Int × Int) :=
  match integer? a, integer? b with
  | some m, some n => .ok (m, n)
  | _, _ => .error .noInteger

def truth (b : Bool) : String := if b then "1" else "0"

def combine (operator a b : String) : Except Fault String :=
  let compare (test : Ordering → Bool) : Except Fault String :=
    match integer? a, integer? b with
    | some m, some n => .ok (truth (test (Ord.compare m n)))
    | _, _ => .ok (truth (test (Ord.compare a b)))
  let calculate (f : Int → Int → Int) : Except Fault String := do
    let (m, n) ← numbers a b
    return toString (f m n)
  match operator with
  | "|" => .ok (if !isNull a then a else if !isNull b then b else "0")
  | "&" => .ok (if isNull a || isNull b then "0" else a)
  | "<" => compare (· = .lt)
  | "<=" => compare (· ≠ .gt)
  | "=" | "==" => compare (· = .eq)
  | "!=" => compare (· ≠ .eq)
  | ">=" => compare (· ≠ .lt)
  | ">" => compare (· = .gt)
  | "+" => calculate (· + ·)
  | "-" => calculate (· - ·)
  | "*" => calculate (· * ·)
  | ":" => matched a b
  | operator => do
    let (m, n) ← numbers a b
    if n = 0 then .error .division
    else return toString (if operator = "/" then Int.tdiv m n else Int.tmod m n)

def indexOf (text chars : String) : Nat :=
  match (text.toList.zip (List.range' 1 text.length)).find? fun x => chars.toList.contains x.1 with
  | some (_, k) => k
  | none => 0

mutual
/-- Values joined by operators of a level, from the left. -/
def level (budget : Nat) (operators : List (List String)) (before : String)
    (words : List String) : Result :=
  match budget, operators with
  | 0, _ => .error (.missingAfter before)
  | n + 1, [] => primary n before words
  | n + 1, here :: tighter => do
    let (a, rest) ← level n tighter before words
    further n here tighter a rest

def further (budget : Nat) (here : List String) (tighter : List (List String)) (a : String)
    (words : List String) : Result :=
  match budget, words with
  | n + 1, operator :: rest =>
    if here.contains operator then do
      let (b, rest) ← level n tighter operator rest
      let c ← combine operator a b
      further n here tighter c rest
    else .ok (a, words)
  | _, words => .ok (a, words)

def primary (budget : Nat) (before : String) (words : List String) : Result :=
  match budget, words with
  | 0, _ | _, [] => .error (.missingAfter before)
  | _ + 1, "+" :: rest => match rest with
    | word :: rest => .ok (word, rest)
    | [] => .error (.missingAfter "+")
  | n + 1, "(" :: rest => do
    let (a, rest) ← level n levels "(" rest
    match rest with
    | ")" :: rest => return (a, rest)
    | [] => .error (.expectingClosing (words.getLast?))
    | _ => .error (.expectingClosing none)
  | _ + 1, ")" :: _ => .error (.unexpected ")")
  | n + 1, "length" :: word :: rest => do
    let (a, rest) ← level n [] "length" (word :: rest)
    return (toString a.utf8ByteSize, rest)
  | n + 1, "match" :: word :: rest => do
    let (a, rest) ← level n [] "match" (word :: rest)
    let (b, rest) ← level n [] a rest
    return (← matched a b, rest)
  | n + 1, "index" :: word :: rest => do
    let (a, rest) ← level n [] "index" (word :: rest)
    let (b, rest) ← level n [] a rest
    return (toString (indexOf a b), rest)
  | n + 1, "substr" :: word :: rest => do
    let (a, rest) ← level n [] "substr" (word :: rest)
    let (b, rest) ← level n [] a rest
    let (c, rest) ← level n [] b rest
    match integer? b, integer? c with
    | some first, some count =>
      if first ≤ 0 || count ≤ 0 then return ("", rest)
      else return (String.ofList ((a.toList.drop (first.toNat - 1)).take count.toNat), rest)
    | _, _ => return ("", rest)
  | _ + 1, word :: rest => .ok (word, rest)
end

def value (words : List String) : Except Fault String := do
  let (a, rest) ← level (words.length * 20 + 20) levels "expr" words
  match rest with
  | [] => return a
  | word :: _ => .error (.unexpected word)

end Calculation

def expr : Tool :=
  { failure := 2
    run := fun options s =>
      let words := match options.operands with
        | "--" :: rest => rest
        | words => words
      if words.isEmpty then misused "missing operand" 2 s
      else match Calculation.value words with
        | .error fault => complain fault.message 2 s
        | .ok a => emitLines [a] (s.withStatus (if Calculation.isNull a then 1 else 0)) }

/-! ### Sequences -/

/-- A decimal number: digits as one number, and how many of them follow the point. -/
structure PlacedNumber where
  digits : Int
  places : Nat

def PlacedNumber.read? (text : String) : Option PlacedNumber :=
  let (negative, cs) := match text.toList with
    | '-' :: rest => (true, rest)
    | '+' :: rest => (false, rest)
    | rest => (false, rest)
  let whole := cs.takeWhile Char.isDigit
  let (places, rest) := match cs.drop whole.length with
    | '.' :: more => (more.takeWhile Char.isDigit, more.dropWhile Char.isDigit)
    | rest => ([], rest)
  if !rest.isEmpty || (whole.isEmpty && places.isEmpty) then none
  else
    let n : Nat := (whole ++ places).foldl (fun n c => n * 10 + (c.toNat - 48)) 0
    some ⟨if negative then -(n : Int) else n, places.length⟩

def PlacedNumber.scaled (d : PlacedNumber) (places : Nat) : Int :=
  d.digits * (Nat.pow 10 (places - d.places) : Nat)

def decimalText (places : Nat) (n : Int) : String :=
  let ds := Decimal.pointed places (Nat.toDigits 10 n.natAbs)
  String.ofList (if n < 0 then '-' :: ds else ds)

structure SequenceStyle where
  separator : String := "\n"
  format : Option String := none
  equalWidth : Bool := false

/-- Options before the numbers, which may have signs themselves. -/
def sequenceStyle (budget : Nat) (style : SequenceStyle) (arguments : List String) :
    SequenceStyle × List String :=
  match budget, arguments with
  | n + 1, "-w" :: rest | n + 1, "--equal-width" :: rest =>
    sequenceStyle n { style with equalWidth := true } rest
  | n + 1, "-s" :: text :: rest => sequenceStyle n { style with separator := text } rest
  | n + 1, "-f" :: text :: rest => sequenceStyle n { style with format := some text } rest
  | n + 1, a :: rest =>
    let cs := a.toList
    if a.startsWith "-s" then
      sequenceStyle n { style with separator := String.ofList (cs.drop 2) } rest
    else if a.startsWith "-f" then
      sequenceStyle n { style with format := some (String.ofList (cs.drop 2)) } rest
    else if a.startsWith "--separator=" then
      sequenceStyle n { style with separator := String.ofList (cs.drop 12) } rest
    else if a.startsWith "--format=" then
      sequenceStyle n { style with format := some (String.ofList (cs.drop 9)) } rest
    else if a = "--" then (style, rest)
    else (style, arguments)
  | _, rest => (style, rest)

def seq : Tool :=
  { run := fun options s =>
      let (style, operands) := sequenceStyle (options.operands.length + 1) {} options.operands
      match operands.find? fun a => (PlacedNumber.read? a).isNone with
      | some a => misused ("invalid floating point argument: " ++ inQuotes a) 1 s
      | none =>
        let one : PlacedNumber := ⟨1, 0⟩
        let run (first step last : PlacedNumber) : State :=
          let places := max first.places step.places
          let shared := max places last.places
          let a := first.scaled shared
          let d := step.scaled shared
          let z := last.scaled shared
          if d = 0 then
            misused ("invalid Zero increment value: " ++ inQuotes ((operands[1]?).getD "")) 1 s
          else
            let count := if 0 < d then (z - a) / d + 1 else (a - z) / (-d) + 1
            let values := (List.range count.toNat).map fun (k : Nat) => a + d * (k : Int)
            let cut := Int.ofNat (Nat.pow 10 (shared - places))
            let texts := values.map fun n => decimalText places (n / cut)
            let width := (texts.map String.length).foldl max
              (if style.equalWidth then (decimalText places (z / cut)).length else 0)
            let widen (t : String) : String :=
              if !style.equalWidth then t
              else
                let zeros := List.replicate (width - t.length) '0'
                match t.toList with
                | '-' :: ds => String.ofList ('-' :: zeros ++ ds)
                | ds => String.ofList (zeros ++ ds)
            let shown := texts.map fun t => match style.format with
              | some format => (Printing.printf format [t]).bytes.toList
              | none => Bytes.ofText (widen t)
            if shown.isEmpty then s
            else emit (List.intercalate (Bytes.ofText style.separator) shown ++ [10]) s
        match operands.filterMap PlacedNumber.read? with
        | [] => misused "missing operand" 1 s
        | [last] => run one one last
        | [first, last] => run first one last
        | [first, step, last] => run first step last
        | _ => misused ("extra operand " ++ inQuotes ((operands[3]?).getD "")) 1 s }

end BuildPipeline.Shell.Tools
