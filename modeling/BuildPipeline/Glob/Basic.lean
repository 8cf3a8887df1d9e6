/-!
Patterns for paths, why a text is none, and why a set of them is refused.
-/
namespace BuildPipeline.Glob

inductive Token
  | literal (c : Char)
  /-- Any one byte. -/
  | any
  /-- Any bytes. -/
  | zeroOrMore
  /-- Nothing, or folders with their slash, at the front. -/
  | recursiveStart
  /-- A slash and anything, at the end. -/
  | recursiveEnd
  /-- A slash, or folders between two slashes. -/
  | recursiveBetween
  | oneOf (negated : Bool) (ranges : List (Char × Char))
  | alternates (branches : List (List Token))
  deriving Inhabited

inductive SyntaxError
  | unclosedClass
  | invalidRange (first last : Char)
  | unopenedGroup
  | unclosedGroup
  | danglingEscape
  deriving DecidableEq, Repr

def SyntaxError.message : SyntaxError → String
  | .unclosedClass => "unclosed character class; missing ']'"
  | .invalidRange first last =>
    "invalid range; '" ++ first.toString ++ "' > '" ++ last.toString ++ "'"
  | .unopenedGroup =>
    "unopened alternate group; missing '\x7b' (maybe escape '\x7d' with '[\x7d]'?)"
  | .unclosedGroup =>
    "unclosed alternate group; missing '\x7d' (maybe escape '\x7b' with '[\x7b]'?)"
  | .danglingEscape => "dangling '\\'"

def SyntaxError.describe (e : SyntaxError) (pattern : String) : String :=
  "error parsing glob '" ++ pattern ++ "': " ++ e.message

inductive SetError
  /-- The expression of a pattern with an extension. -/
  | extension (text : String)
  /-- The expression with this number among those that are needed. -/
  | expression (index : Nat)
  deriving DecidableEq

def SetError.message : SetError → String
  | .extension text => "error parsing glob '" ++ text ++ "': error parsing pattern 0"
  | .expression index => "error parsing pattern " ++ toString index

end BuildPipeline.Glob
