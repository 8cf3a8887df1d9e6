import BuildPipeline.Shell.Builtins.Basic

/-!
The command that tests files, texts and numbers.
-/
namespace BuildPipeline.Shell.Builtins.Tests

/-- What a word means where an operator may stand. -/
inductive Mark
  | operand
  | unary
  | binary
  | negation
  | conjunction
  | disjunction
  | opening
  | closing
  | missing
  deriving DecidableEq

def unaryOperators : List String :=
  ["-r", "-w", "-x", "-e", "-f", "-d", "-c", "-b", "-p", "-u", "-g", "-k", "-s", "-t", "-z", "-n",
    "-h", "-O", "-G", "-L", "-S"]

def binaryOperators : List String :=
  ["=", "!=", "<", ">", "-eq", "-ne", "-ge", "-gt", "-le", "-lt", "-nt", "-ot", "-ef"]

def kind (word : String) : Mark :=
  if unaryOperators.contains word then .unary
  else if binaryOperators.contains word then .binary
  else match word with
    | "!" => .negation
    | "-a" => .conjunction
    | "-o" => .disjunction
    | "(" => .opening
    | ")" => .closing
    | _ => .operand

def mark (words : List String) : Mark :=
  match words with
  | [] => .missing
  | word :: rest => match kind word, rest with
    | .unary, [] => .operand
    | .unary, _ :: [] => .unary
    | .unary, next :: _ => if kind next = .binary then .operand else .unary
    | .opening, [] => .operand
    | k, _ => k

def number? (text : String) : Option Int :=
  let cs := text.toList.dropWhile Char.isWhitespace
  let (negative, cs) := match cs with
    | '-' :: rest => (true, rest)
    | '+' :: rest => (false, rest)
    | rest => (false, rest)
  let digits := cs.takeWhile Char.isDigit
  let value := (String.ofList digits).toNat?.getD 0
  if digits.isEmpty || !(cs.drop digits.length).all Char.isWhitespace then none
  else if negative then (if value ≤ 0x8000000000000000 then some (-(value : Int)) else none)
  else if value ≤ 0x7FFFFFFFFFFFFFFF then some value else none

section
variable (s : State)

def unary (operator operand : String) : Except String Bool :=
  let node := s.files.stat ⟨operand⟩
  let has (test : Node → Bool) : Bool := match node with
    | .ok n => test n
    | .error _ => false
  match operator with
  | "-n" => .ok !operand.isEmpty
  | "-z" => .ok operand.isEmpty
  | "-t" => if (number? operand).isNone then .error ("Illegal number: " ++ operand) else .ok false
  | "-e" | "-r" | "-w" | "-O" | "-G" => .ok node.isOk
  | "-f" => .ok (has Node.isFile)
  | "-d" => .ok (has Node.isFolder)
  | "-c" => .ok (has fun n => n matches .device _)
  | "-s" => .ok (has fun n => match n with
    | .file content _ => content.size ≠ 0
    | .folder _ => true
    | _ => false)
  | "-x" => .ok (has fun n => match n with
    | .file _ runnable => runnable
    | .folder _ => true
    | _ => false)
  | "-L" | "-h" => .ok (match s.files.locate ⟨operand⟩ .entry with
    | .ok ⟨_, some (.link _)⟩ => true
    | _ => false)
  | _ => .ok false

def binary (operator a b : String) : Except String Bool :=
  let compare (test : Int → Int → Bool) : Except String Bool :=
    match number? a, number? b with
    | some m, some n => .ok (test m n)
    | none, _ => .error ("Illegal number: " ++ a)
    | _, none => .error ("Illegal number: " ++ b)
  let isThere (p : String) : Bool := s.files.existsAt ⟨p⟩
  match operator with
  | "=" => .ok (a = b)
  | "!=" => .ok (a ≠ b)
  | "<" => .ok (a < b)
  | ">" => .ok (b < a)
  | "-eq" => compare fun m n => m = n
  | "-ne" => compare fun m n => m ≠ n
  | "-lt" => compare fun m n => m < n
  | "-le" => compare fun m n => m ≤ n
  | "-gt" => compare fun m n => n < m
  | "-ge" => compare fun m n => n ≤ m
  | "-nt" => .ok (isThere a && !isThere b)
  | "-ot" => .ok (!isThere a && isThere b)
  | "-ef" => .ok (match s.files.canonical ⟨a⟩, s.files.canonical ⟨b⟩ with
    | .ok m, .ok n => m = n
    | _, _ => false)
  | _ => .ok false

mutual
/-- Tests joined by disjunctions. Also gives the words from the last one that was used. -/
def either (budget : Nat) (first : Mark) (words : List String) :
    Except String (Bool × List String) :=
  match budget with
  | 0 => .ok (false, words)
  | n + 1 => do
    let (r, words) ← both n first words
    if mark (words.drop 1) = .disjunction then
      let (more, words) ← either n (mark (words.drop 2)) (words.drop 2)
      return (r || more, words)
    else return (r, words)

def both (budget : Nat) (first : Mark) (words : List String) :
    Except String (Bool × List String) :=
  match budget with
  | 0 => .ok (false, words)
  | n + 1 => do
    let (r, words) ← negated n first words
    if mark (words.drop 1) = .conjunction then
      let (more, words) ← both n (mark (words.drop 2)) (words.drop 2)
      return (r && more, words)
    else return (r, words)

def negated (budget : Nat) (first : Mark) (words : List String) :
    Except String (Bool × List String) :=
  match budget with
  | 0 => .ok (false, words)
  | n + 1 =>
    if first = .negation then do
      let next := mark (words.drop 1)
      let (r, words) ← negated n next (if next = .missing then words else words.drop 1)
      return (!r, words)
    else single n first words

def single (budget : Nat) (first : Mark) (words : List String) :
    Except String (Bool × List String) :=
  match budget with
  | 0 => .ok (false, words)
  | n + 1 =>
    match first, words with
    | .missing, _ | _, [] => .ok (false, words)
    | .opening, _ :: rest =>
      if mark rest = .closing then .ok (false, rest)
      else do
        let (r, words) ← either n (mark rest) rest
        if mark (words.drop 1) = .closing then return (r, words.drop 1)
        else .error "closing paren expected"
    | .unary, operator :: rest => match rest with
      | operand :: _ => (unary s operator operand).map fun r => (r, rest)
      | [] => .error (operator ++ ": argument expected")
    | _, a :: rest =>
      if mark rest = .binary then
        match rest with
        | operator :: b :: more => (binary s operator a b).map fun r => (r, b :: more)
        | operator :: [] => .error (operator ++ ": argument expected")
        | [] => .ok (!a.isEmpty, words)
      else .ok (!a.isEmpty, words)
end

def whole (first : Mark) (words : List String) : Except String Bool := do
  let (r, left) ← either s (words.length * 4 + 8) first words
  match left with
  | a :: _ :: _ => .error (a ++ ": unexpected operator")
  | _ => return r

/-- Few words mean what they should whatever they look like. -/
def judge (budget : Nat) (words : List String) : Except String Bool :=
  match budget, words with
  | 0, _ | _, [] => .ok false
  | n + 1, words =>
    match words with
    | [_, operator, _] =>
      if kind operator = .binary then whole s .operand words else bracketed n words
    | [_, _, _, _] => bracketed n words
    | _ => whole s (mark words) words
where
  bracketed (n : Nat) (words : List String) : Except String Bool :=
    if words.head? = some "(" && words.getLast? = some ")" then judge n (words.drop 1).dropLast
    else if words.head? = some "!" then
      match words.drop 1 with
      | [] => .ok true
      | rest => (judge n rest).map (!·)
    else whole s (mark words) words

end

def run (words : List String) (s : State) : State :=
  match judge s (words.length + 1) words with
  | .ok true => s.withStatus 0
  | .ok false => s.withStatus 1
  | .error fault => s.abort fault

end Tests

def test : Builtin := Tests.run

def bracket : Builtin := fun arguments s =>
  if arguments.getLast? = some "]" then Tests.run arguments.dropLast s
  else s.abort "missing ]"

end BuildPipeline.Shell.Builtins
