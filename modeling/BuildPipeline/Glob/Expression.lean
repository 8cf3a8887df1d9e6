import BuildPipeline.Glob.Match

/-!
Patterns as regular expressions over bytes: their text, and how deep they nest. A set of patterns is
refused if one of its expressions nests too deep; patterns that are looked up by a plain text need
no expression of their own.
-/
namespace BuildPipeline.Glob

/-! ### Texts -/

def isSpecial (c : Char) : Bool := "\\.+*?()|[]\x7b\x7d^$#&-~".toList.contains c

def hexDigits (b : UInt8) : String :=
  String.ofList [Nat.digitChar (b.toNat / 16), Nat.digitChar (b.toNat % 16)]

/-- A character in an expression; bytes beyond ASCII are written as numbers. -/
def literalText (c : Char) : String :=
  if c.toNat < 0x80 then (if isSpecial c then "\\" ++ c.toString else c.toString)
  else String.join ((bytesOf c).map fun b => "\\x" ++ hexDigits b)

def rangeText (r : Char × Char) : String :=
  if r.1 = r.2 then literalText r.1 else literalText r.1 ++ "-" ++ literalText r.2

mutual
def textOf : List Token → String
  | [] => ""
  | t :: rest => textOfToken t ++ textOf rest

def textOfToken : Token → String
  | .literal c => literalText c
  | .any => "."
  | .zeroOrMore => ".*"
  | .recursiveStart => "(?:/?|.*/)"
  | .recursiveEnd => "/.*"
  | .recursiveBetween => "(?:/|/.*/)"
  | .oneOf negated ranges =>
    "[" ++ (if negated then "^" else "") ++ String.join (ranges.map rangeText) ++ "]"
  | .alternates branches => match branchTexts branches with
    | [] => ""
    | texts => "(?:" ++ String.intercalate "|" texts ++ ")"

def branchTexts : List (List Token) → List String
  | [] => []
  | b :: rest => if isBlank b then branchTexts rest else textOf b :: branchTexts rest
end

def expressionText (tokens : List Token) : String :=
  match tokens with
  | [.recursiveStart] => "(?-u)^.*$"
  | tokens => "(?-u)^" ++ textOf tokens ++ "$"

/-! ### Depths -/

/-- Parts of an expression in a row: how many there are, and how deep the deepest nests. -/
structure Extent where
  parts : Nat
  depth : Nat

namespace Extent

def add (a b : Extent) : Extent := ⟨a.parts + b.parts, max a.depth b.depth⟩

/-- The depth of a row, which is a level of its own unless it has only one part. -/
def level (e : Extent) : Nat := if e.parts ≤ 1 then e.depth else e.depth + 1

end Extent

mutual
def extentOf : List Token → Extent
  | [] => ⟨0, 0⟩
  | t :: rest => (extentOfToken t).add (extentOf rest)

def extentOfToken : Token → Extent
  | .literal c => ⟨(bytesOf c).length, 0⟩
  | .any => ⟨1, 0⟩
  | .zeroOrMore => ⟨1, 1⟩
  | .recursiveStart => ⟨1, 4⟩
  | .recursiveEnd => ⟨2, 1⟩
  | .recursiveBetween => ⟨1, 4⟩
  | .oneOf _ ranges => ⟨1, if (byteRanges ranges).length ≤ 1 then 1 else 2⟩
  | .alternates branches =>
    let e := extentOfBranches branches
    if e.parts = 0 then ⟨0, 0⟩ else ⟨1, e.level + 1⟩

def extentOfBranches : List (List Token) → Extent
  | [] => ⟨0, 0⟩
  | b :: rest =>
    if isBlank b then extentOfBranches rest
    else Extent.add ⟨1, (extentOf b).level⟩ (extentOfBranches rest)
end

def maxDepth : Nat := 250

/-- Whether the expression of a whole pattern, with the anchors at its ends, nests too deep. -/
def nestsTooDeep (tokens : List Token) : Bool := maxDepth < (extentOf tokens).depth + 1

/-! ### Sets -/

inductive Lookup
  /-- By a text that a path is, begins with or ends in. -/
  | plain
  /-- By the path's extension first, and then by the expression. -/
  | extension
  | expression
  deriving DecidableEq

def literal? : Token → Option Char
  | .literal c => some c
  | _ => none

def literals? (tokens : List Token) : Option (List Char) := tokens.mapM literal?

/-- The text that a path ends in: after folders it begins with a slash. -/
def back? : List Token → Option (List Char)
  | .recursiveStart :: .literal c :: rest => (literals? rest).map fun cs => '/' :: c :: cs
  | .recursiveStart :: .zeroOrMore :: rest => literals? rest
  | .recursiveStart :: rest => literals? rest
  | .zeroOrMore :: rest => literals? rest
  | tokens => literals? tokens

def front? (tokens : List Token) : Option (List Char) :=
  match tokens.getLast? with
  | some .zeroOrMore => literals? tokens.dropLast
  | some .recursiveEnd => (literals? tokens.dropLast).map (· ++ ['/'])
  | _ => literals? tokens

/-- Whether a pattern is plain text but for wild cards at one of its ends. -/
def isPlain (tokens : List Token) : Bool :=
  (front? tokens).any (fun cs => !cs.isEmpty) ||
    (back? tokens).any (fun cs => !cs.isEmpty && cs ≠ ['/'])

def endsInExtension (tokens : List Token) : Bool :=
  let name := tokens.reverse.takeWhile fun t => (literal? t).any fun c => c ≠ '/' && c ≠ '.'
  (tokens.reverse.drop name.length).head?.bind literal? = some '.'

def lookup (tokens : List Token) : Lookup :=
  if isPlain tokens then .plain
  else if endsInExtension tokens then .extension
  else .expression

/-- The first reason to refuse a set; patterns with an extension come first. -/
def setError? (patterns : List (List Token)) : Option SetError :=
  match patterns.find? fun p => lookup p = .extension && nestsTooDeep p with
  | some p => some (.extension (expressionText p))
  | none =>
    ((patterns.filter fun p => lookup p = .expression).findIdx? nestsTooDeep).map .expression

end BuildPipeline.Glob
