import BuildPipeline.Json.Basic
import BuildPipeline.Decimal.Notation

/-!
Writing a document: two spaces for each level, members in order.
-/
namespace BuildPipeline.Json

def hexDigit (n : Nat) : Char := Char.ofNat (if n < 10 then 48 + n else 87 + n)

/-- A character inside quotes. Only quotes, backslashes and control characters are escaped. -/
def escapeChar (c : Char) : List Char :=
  if c = '"' then ['\\', '"']
  else if c = '\\' then ['\\', '\\']
  else if c = '\n' then ['\\', 'n']
  else if c = '\r' then ['\\', 'r']
  else if c = '\t' then ['\\', 't']
  else if c.toNat = 8 then ['\\', 'b']
  else if c.toNat = 12 then ['\\', 'f']
  else if c.toNat < 0x20 then
    ['\\', 'u', '0', '0', hexDigit (c.toNat / 16), hexDigit (c.toNat % 16)]
  else [c]

def quote (s : String) : List Char := '"' :: s.toList.flatMap escapeChar ++ ['"']

def indentation (level : Nat) : List Char := List.replicate (2 * level) ' '

def newLine (level : Nat) : List Char := '\n' :: indentation level

/-- A double that is not finite is written as null. -/
def printDouble (x : Float) : List Char :=
  match Decimal.document? x with
  | some t => t.toList
  | none => ['n', 'u', 'l', 'l']

def printInteger (n : Int) : List Char :=
  match n with
  | .ofNat k => Nat.toDigits 10 k
  | .negSucc k => '-' :: Nat.toDigits 10 (k + 1)

mutual
def print (level : Nat) : Json → List Char
  | .null => ['n', 'u', 'l', 'l']
  | .bool true => ['t', 'r', 'u', 'e']
  | .bool false => ['f', 'a', 'l', 's', 'e']
  | .integer n => printInteger n
  | .double x => printDouble x
  | .string s => quote s
  | .array [] => ['[', ']']
  | .array (j :: rest) =>
    '[' :: newLine (level + 1) ++ print (level + 1) j ++ printItems (level + 1) rest ++
      newLine level ++ [']']
  | .object [] => ['{', '}']
  | .object (m :: rest) =>
    '{' :: newLine (level + 1) ++ quote m.1 ++ ':' :: ' ' :: print (level + 1) m.2 ++
      printMembers (level + 1) rest ++ newLine level ++ ['}']
  | .unsound => ['n', 'u', 'l', 'l']

def printItems (level : Nat) : List Json → List Char
  | [] => []
  | j :: rest => ',' :: newLine level ++ print level j ++ printItems level rest

def printMembers (level : Nat) : List (String × Json) → List Char
  | [] => []
  | m :: rest =>
    ',' :: newLine level ++ quote m.1 ++ ':' :: ' ' :: print level m.2 ++ printMembers level rest
end

def render (j : Json) : String := String.ofList (print 0 j)

end BuildPipeline.Json
