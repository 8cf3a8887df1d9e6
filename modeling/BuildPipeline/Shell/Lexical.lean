import BuildPipeline.Shell.Syntax

/-!
The characters of a command text: what ends a word, what quotes, and what stands for what.
-/
namespace BuildPipeline.Shell

abbrev Located := Nat × SyntaxFault

abbrev Read := Except Located

namespace Reader

def isSpace (c : Char) : Bool := c = ' ' || c = '\t'

def backQuote : Char := Char.ofNat 96

/-- Characters that end a word unless they are quoted. -/
def isMeta (c : Char) : Bool := isSpace c || "\n;&|<>()".toList.contains c

def isNameStart (c : Char) : Bool := c.isAlpha || c = '_'

def isNameChar (c : Char) : Bool := c.isAlphanum || c = '_'

def isSpecial (c : Char) : Bool := "?$#!@*-".toList.contains c

def skipSpace : List Char → List Char
  | '\\' :: '\n' :: rest => skipSpace rest
  | c :: rest =>
    if isSpace c then skipSpace rest
    else if c = '#' then (c :: rest).dropWhile (· ≠ '\n')
    else c :: rest
  | [] => []

def rawWord (cs : List Char) : String := String.ofList (cs.takeWhile fun c => !isMeta c)

def closers : List String :=
  ["then", "else", "elif", "fi", "do", "done", "esac", "\x7d"]

def keywords : List String :=
  closers ++ ["if", "while", "until", "for", "case", "in", "\x7b", "!"]

/-- Commands of the shell that no function can stand for. -/
def specialNames : List String :=
  ["break", ".", ":", "continue", "eval", "exec", "exit", "export", "readonly", "return", "set",
    "shift", "times", "trap", "unset"]

def inQuotes (token : String) : String := "\"" ++ token ++ "\""

/-- Whether a redirection is at the front: perhaps a digit, and then its sign. -/
def startsRedirection (cs : List Char) : Bool :=
  let rest := if cs.head?.any Char.isDigit then cs.drop 1 else cs
  rest.head?.any fun c => c = '<' || c = '>'

def tokenText (cs : List Char) : String :=
  match cs with
  | [] => "end of file"
  | '\n' :: _ => "newline"
  | '&' :: '&' :: _ => inQuotes "&&"
  | '|' :: '|' :: _ => inQuotes "||"
  | ';' :: ';' :: _ => inQuotes ";;"
  | c :: _ =>
    if startsRedirection cs then "redirection"
    else if isMeta c then inQuotes c.toString
    else if keywords.contains (rawWord cs) then inQuotes (rawWord cs)
    else "word"

inductive Ending
  | word
  | quote
  | brace (quoted : Bool)
  /-- Nothing but the end of the text. -/
  | all

namespace Ending

def quoted : Ending → Bool
  | .word => false
  | .quote | .all => true
  | .brace quoted => quoted

def endsAt : Ending → Char → Bool
  | .word, c => isMeta c
  | .quote, c => c = '"'
  | .brace _, c => c = '\x7d'
  | .all, _ => false

/-- What follows the end, which begins with the given text. -/
def after : Ending → List Char → List Char
  | .word, cs | .all, cs => cs
  | .quote, cs | .brace _, cs => cs.drop 1

def fault? : Ending → Option SyntaxFault
  | .word | .all => none
  | .quote => some .unterminatedQuote
  | .brace _ => some .missingBrace

def knowsQuotes : Ending → Bool
  | .all => false
  | .word | .quote | .brace _ => true

/-- Whether a character stands for itself. -/
def isPlain (e : Ending) (c : Char) : Bool :=
  !e.endsAt c && !("\\$".toList.contains c || c = backQuote) &&
    (c ≠ '"' || !e.knowsQuotes) && (e.quoted || c ≠ '\'')

def isEscapable (e : Ending) (c : Char) : Bool :=
  !e.quoted || e.endsAt c || "$\\".toList.contains c || c = backQuote ||
    (c = '"' && e.knowsQuotes)

end Ending

/-- A text between back quotes and what follows them; a backslash quotes only some characters. -/
def backQuoted : List Char → Option (List Char × List Char)
  | [] => none
  | '\\' :: c :: rest =>
    (backQuoted rest).map fun r =>
      (if c = '\\' || c = '$' || c = backQuote then c :: r.1 else '\\' :: c :: r.1, r.2)
  | c :: rest =>
    if c = backQuote then some ([], rest) else (backQuoted rest).map fun r => (c :: r.1, r.2)

/-- The text of a calculation, and what follows the two parentheses that close it. -/
def calculationText (depth : Nat) : List Char → Option (List Char × List Char)
  | [] => none
  | '(' :: rest => (calculationText (depth + 1) rest).map fun r => ('(' :: r.1, r.2)
  | ')' :: rest =>
    match depth, rest with
    | 0, ')' :: after => some ([], after)
    | depth, rest => (calculationText (depth - 1) rest).map fun r => (')' :: r.1, r.2)
  | c :: rest => (calculationText depth rest).map fun r => (c :: r.1, r.2)

/-- The lines up to one that is the delimiter, and what follows it. Tabs at the front of lines may
be taken off. -/
def hereLines (budget : Nat) (tabs : Bool) (delimiter cs : List Char) :
    List Char × List Char :=
  match budget, cs with
  | 0, _ | _, [] => ([], [])
  | n + 1, cs =>
    let raw := cs.takeWhile (· ≠ '\n')
    let line := if tabs then raw.dropWhile (· = '\t') else raw
    match cs.drop raw.length with
    | [] => (if line = delimiter then [] else line, [])
    | _ :: rest =>
      if line = delimiter then ([], rest)
      else
        let (more, rest) := hereLines n tabs delimiter rest
        (line ++ '\n' :: more, rest)

/-- Takes lines that are to be read out of a text, from its second line on. -/
def hereText (tabs : Bool) (delimiter cs : List Char) : List Char × List Char :=
  let line := cs.takeWhile (· ≠ '\n')
  match cs.drop line.length with
  | [] => ([], cs)
  | _ :: rest =>
    let (text, rest) := hereLines (rest.length + 1) tabs delimiter rest
    (text, line ++ '\n' :: rest)

def operation : List Char → Option ((Word → Use) × List Char)
  | ':' :: '-' :: rest => some (.fallback true, rest)
  | ':' :: '=' :: rest => some (.assign true, rest)
  | ':' :: '+' :: rest => some (.replace true, rest)
  | ':' :: '?' :: rest => some (.demand true, rest)
  | '-' :: rest => some (.fallback false, rest)
  | '=' :: rest => some (.assign false, rest)
  | '+' :: rest => some (.replace false, rest)
  | '?' :: rest => some (.demand false, rest)
  | '#' :: '#' :: rest => some (.strip .front true, rest)
  | '#' :: rest => some (.strip .front false, rest)
  | '%' :: '%' :: rest => some (.strip .back true, rest)
  | '%' :: rest => some (.strip .back false, rest)
  | _ => none

def parameterName (cs : List Char) : List Char :=
  match cs with
  | c :: _ =>
    if isNameStart c then cs.takeWhile isNameChar
    else if c.isDigit then cs.takeWhile Char.isDigit
    else if isSpecial c then [c]
    else []
  | [] => []

def assignment? : Word → Option (String × Word)
  | .text false s :: rest =>
    let name := s.toList.takeWhile isNameChar
    match s.toList.drop name.length with
    | '=' :: value =>
      if name.head?.any isNameStart then
        some (String.ofList name, .text false (String.ofList value) :: rest)
      else none
    | _ => none
  | _ => none

def redirectionSign? (cs : List Char) : Option (Option Nat × List Char) :=
  if startsRedirection cs then
    let digits := cs.takeWhile Char.isDigit
    some ((String.ofList digits).toNat?, cs.drop digits.length)
  else none

def isName (cs : List Char) : Bool := cs.head?.any isNameStart && cs.all isNameChar

def plainText? : Word → Option (List Char)
  | [.text false s] => some s.toList
  | _ => none

/-- The text of a word in which nothing is put in, and whether any of it was quoted. -/
def literalText (word : Word) : List Char × Bool :=
  word.foldl
    (fun r part => match part with
      | .text quoted s => (r.1 ++ s.toList, r.2 || quoted)
      | _ => r)
    ([], false)

def redirectionKind (descriptor : Option Nat) :
    List Char → Option ((Word → Redirection) × List Char)
  | '>' :: '>' :: rest => some (.file (descriptor.getD 1) .append, rest)
  | '>' :: '&' :: rest => some (.duplicate (descriptor.getD 1), rest)
  | '>' :: '|' :: rest => some (.file (descriptor.getD 1) (.write true), rest)
  | '>' :: rest => some (.file (descriptor.getD 1) (.write false), rest)
  | '<' :: '&' :: rest => some (.duplicate (descriptor.getD 0), rest)
  | '<' :: '>' :: rest => some (.file (descriptor.getD 0) .readWrite, rest)
  | '<' :: '<' :: _ => none
  | '<' :: rest => some (.file (descriptor.getD 0) .read, rest)
  | _ => none

end Reader
end BuildPipeline.Shell
