import BuildPipeline.Shell.Lexical
import BuildPipeline.Shell.State

/-!
Calculations with whole numbers of one machine word, which wrap. Names stand for the numbers that
variables hold; a variable without a value counts as zero.
-/
namespace BuildPipeline.Shell.Arithmetic

inductive Expr
  | number (n : Int)
  | variable (name : String)
  | unary (operator : String) (a : Expr)
  | binary (operator : String) (a b : Expr)
  | choice (test yes no : Expr)
  /-- Gives a variable a new value, which an operator makes out of the old one if there is one. -/
  | assign (name operator : String) (a : Expr)

inductive Token
  | number (n : Nat)
  | name (s : String)
  | operator (s : String)
  /-- A character that has no meaning. -/
  | unknown
  deriving DecidableEq

inductive Fault
  /-- The text as a whole is wrong. -/
  | malformed (reason : String)
  /-- A variable holds something that is no number. -/
  | illegalNumber (value : String)
  | readOnly (name : String)
  deriving DecidableEq

def Fault.message (text : String) : Fault → String
  | .malformed reason => "arithmetic expression: " ++ reason ++ ": \"" ++ text ++ "\""
  | .illegalNumber value => "Illegal number: " ++ value
  | .readOnly name => name ++ ": is read only"

/-! ### Reading -/

def operators : List String :=
  ["<<=", ">>=", "<<", ">>", "<=", ">=", "==", "!=", "&&", "||", "+=", "-=", "*=", "/=", "%=",
    "&=", "|=", "^=", "+", "-", "*", "/", "%", "<", ">", "=", "!", "~", "&", "|", "^", "?", ":",
    "(", ")"]

def largest : Nat := 0x7FFFFFFFFFFFFFFF

/-- The number at the front of a text that begins with a digit, and what follows it. A zero makes it
octal, and an x after that hexadecimal. -/
def readNumber (cs : List Char) : Nat × List Char :=
  let isHex (c : Char) : Bool := c.isDigit || ('a' ≤ c.toLower && c.toLower ≤ 'f')
  let digit (c : Char) : Nat := if c.isDigit then c.toNat - 48 else c.toLower.toNat - 87
  let value (base : Nat) (digits : List Char) : Nat :=
    min largest (digits.foldl (fun n c => n * base + digit c) 0)
  let read (base : Nat) (isDigit : Char → Bool) (cs : List Char) : Nat × List Char :=
    let digits := cs.takeWhile isDigit
    (value base digits, cs.drop digits.length)
  match cs with
  | '0' :: x :: rest =>
    if (x = 'x' || x = 'X') && rest.head?.any isHex then read 16 isHex rest
    else read 8 (fun c => '0' ≤ c && c ≤ '7') cs
  | cs => read 10 Char.isDigit cs

def number? (text : String) : Option Int :=
  let cs := text.toList.dropWhile Char.isWhitespace
  let (negative, cs) := match cs with
    | '-' :: rest => (true, rest)
    | '+' :: rest => (false, rest)
    | rest => (false, rest)
  if cs.isEmpty && text.toList.all Char.isWhitespace then some 0
  else if !cs.head?.any Char.isDigit then none
  else
    let (n, rest) := readNumber cs
    if rest.all Char.isWhitespace then some (if negative then -(n : Int) else n) else none

def tokens (budget : Nat) (cs : List Char) : List Token :=
  match budget, cs with
  | 0, _ | _, [] => []
  | n + 1, c :: rest =>
    if c = ' ' || c = '\t' || c = '\n' then tokens n rest
    else if c.isDigit then
      let (k, rest) := readNumber cs
      .number k :: tokens n rest
    else if Reader.isNameStart c then
      let name := cs.takeWhile Reader.isNameChar
      .name (String.ofList name) :: tokens n (cs.drop name.length)
    else match operators.find? fun o => o.toList.isPrefixOf cs with
      | some operator => .operator operator :: tokens n (cs.drop operator.length)
      | none => .unknown :: tokens n rest

def strength? (operator : String) : Option Nat :=
  [("||", 1), ("&&", 2), ("|", 3), ("^", 4), ("&", 5), ("==", 6), ("!=", 6), ("<", 7), ("<=", 7),
    (">", 7), (">=", 7), ("<<", 8), (">>", 8), ("+", 9), ("-", 9), ("*", 10), ("/", 10),
    ("%", 10)].lookup operator

/-- The operator within an assignment, empty for a plain one. -/
def assignment? (operator : String) : Option String :=
  [("=", ""), ("+=", "+"), ("-=", "-"), ("*=", "*"), ("/=", "/"), ("%=", "%"), ("&=", "&"),
    ("|=", "|"), ("^=", "^"), ("<<=", "<<"), (">>=", ">>")].lookup operator

mutual
/-- An assignment, or a choice between two values, or neither. -/
def readExpr (budget : Nat) (ts : List Token) : Except String (Expr × List Token) :=
  match budget with
  | 0 => .error "expecting primary"
  | n + 1 =>
    let value : Except String (Expr × List Token) := do
      let (test, rest) ← readBinary n 1 ts
      match rest with
      | .operator "?" :: rest =>
        let (yes, rest) ← readExpr n rest
        match rest with
        | .operator ":" :: rest =>
          let (no, rest) ← readExpr n rest
          return (.choice test yes no, rest)
        | _ => .error "expecting ':'"
      | rest => return (test, rest)
    match ts with
    | .name name :: .operator operator :: rest => match assignment? operator with
      | some inner => do
        let (a, rest) ← readExpr n rest
        return (.assign name inner a, rest)
      | none => value
    | _ => value

def readBinary (budget least : Nat) (ts : List Token) : Except String (Expr × List Token) :=
  match budget with
  | 0 => .error "expecting primary"
  | n + 1 => do
    let (a, rest) ← readUnary n ts
    readMore n least a rest

def readMore (budget least : Nat) (a : Expr) (ts : List Token) :
    Except String (Expr × List Token) :=
  match budget with
  | 0 => .ok (a, ts)
  | n + 1 =>
    match ts with
    | .operator operator :: rest => match strength? operator with
      | none => .ok (a, ts)
      | some strength =>
        if strength < least then .ok (a, ts)
        else do
          let (b, rest) ← readBinary n (strength + 1) rest
          readMore n least (.binary operator a b) rest
    | _ => .ok (a, ts)

def readUnary (budget : Nat) (ts : List Token) : Except String (Expr × List Token) :=
  match budget with
  | 0 => .error "expecting primary"
  | n + 1 =>
    match ts with
    | .number k :: rest => .ok (.number k, rest)
    | .name name :: rest => .ok (.variable name, rest)
    | .operator "(" :: rest => do
      let (a, rest) ← readExpr n rest
      match rest with
      | .operator ")" :: rest => return (a, rest)
      | _ => .error "expecting ')'"
    | .operator operator :: rest =>
      if ["-", "+", "!", "~"].contains operator then do
        let (a, rest) ← readUnary n rest
        return (.unary operator a, rest)
      else .error "expecting primary"
    | .unknown :: _ | [] => .error "expecting primary"
end

def read (text : String) : Except Fault Expr :=
  let cs := text.toList
  match tokens (cs.length + 1) cs with
  | [] => .ok (.number 0)
  | ts => match readExpr (ts.length * 4 + 4) ts with
    | .error e => .error (.malformed e)
    | .ok (e, []) => .ok e
    | .ok _ => .error (.malformed "expecting EOF")

/-! ### Values -/

def wrap (n : Int) : Int :=
  (n + 0x8000000000000000) % 0x10000000000000000 - 0x8000000000000000

def ofBool (b : Bool) : Int := if b then 1 else 0

def bitwise (f : Nat → Nat → Nat) (a b : Int) : Int :=
  wrap (f (a % 0x10000000000000000).toNat (b % 0x10000000000000000).toNat)

/-- What an operator makes of two values; nothing can be divided by zero. -/
def combine? (operator : String) (a b : Int) : Option Int :=
  match operator with
  | "+" => some (wrap (a + b))
  | "-" => some (wrap (a - b))
  | "*" => some (wrap (a * b))
  | "/" => if b = 0 then none else some (wrap (a.tdiv b))
  | "%" => if b = 0 then none else some (a.tmod b)
  | "<<" => some (wrap (a * Nat.pow 2 (b % 64).toNat))
  | ">>" => some (a / Nat.pow 2 (b % 64).toNat)
  | "&" => some (bitwise (· &&& ·) a b)
  | "|" => some (bitwise (· ||| ·) a b)
  | "^" => some (bitwise (· ^^^ ·) a b)
  | "==" => some (ofBool (a = b))
  | "!=" => some (ofBool (a ≠ b))
  | "<" => some (ofBool (a < b))
  | "<=" => some (ofBool (a ≤ b))
  | ">" => some (ofBool (b < a))
  | ">=" => some (ofBool (b ≤ a))
  | "&&" => some (ofBool (a ≠ 0 && b ≠ 0))
  | "||" => some (ofBool (a ≠ 0 || b ≠ 0))
  | _ => some b

def held? (s : State) (name : String) : Except Fault Int :=
  let text := (s.value? name).getD ""
  match number? text with
  | some n => .ok n
  | none => .error (.illegalNumber text)

/-- The value of a calculation, and the state after its assignments. The right side of a conjunction
or a choice is left alone if it does not matter. -/
def eval (s : State) : Expr → Except Fault (Int × State)
  | .number n => .ok (wrap n, s)
  | .variable name => (held? s name).map fun n => (n, s)
  | .unary operator a => do
    let (n, s) ← eval s a
    return (match operator with
      | "-" => wrap (-n)
      | "!" => ofBool (n = 0)
      | "~" => -n - 1
      | _ => n, s)
  | .binary operator a b => do
    let (m, s) ← eval s a
    if operator = "&&" && m = 0 then return (0, s)
    else if operator = "||" && m ≠ 0 then return (1, s)
    else
      let (n, s) ← eval s b
      match combine? operator m n with
      | some k => return (k, s)
      | none => .error (.malformed "division by zero")
  | .choice test yes no => do
    let (n, s) ← eval s test
    if n ≠ 0 then eval s yes else eval s no
  | .assign name operator a => do
    let (n, s) ← eval s a
    let old ← if operator.isEmpty then pure 0 else held? s name
    match combine? operator old n with
    | none => .error (.malformed "division by zero")
    | some k =>
      if s.isFixed name then .error (.readOnly name) else return (k, s.assign name (toString k))

def calculate (text : String) (s : State) : Except Fault (Int × State) := do
  eval s (← read text)

end BuildPipeline.Shell.Arithmetic
