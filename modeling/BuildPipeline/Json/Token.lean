import BuildPipeline.Json.Numeral

/-!
The tokens of a document, found by one pass over its characters.
-/
namespace BuildPipeline.Json

inductive Token
  | openBrace
  | closeBrace
  | openBracket
  | closeBracket
  | comma
  | colon
  | scalar (value : Json)
  /-- A string, if its escapes make up characters. -/
  | text (content : Option String)

/-- The part of a string read so far, last character first. -/
structure TextSoFar where
  chars : List Char
  /-- A high surrogate that waits for its partner. -/
  high : Option Nat
  sound : Bool

namespace TextSoFar

def start : TextSoFar := ⟨[], none, true⟩

def addChar (t : TextSoFar) (c : Char) : TextSoFar :=
  ⟨c :: t.chars, none, t.sound && t.high.isNone⟩

def isHighSurrogate (unit : Nat) : Bool := 0xD800 ≤ unit && unit ≤ 0xDBFF

def isLowSurrogate (unit : Nat) : Bool := 0xDC00 ≤ unit && unit ≤ 0xDFFF

/-- Adds an escaped code unit; two surrogates in order make one character. -/
def addUnit (t : TextSoFar) (unit : Nat) : TextSoFar :=
  match t.high with
  | some high =>
    if isLowSurrogate unit then
      ⟨Char.ofNat (0x10000 + (high - 0xD800) * 0x400 + (unit - 0xDC00)) :: t.chars, none, t.sound⟩
    else ⟨t.chars, none, false⟩
  | none =>
    if isHighSurrogate unit then ⟨t.chars, some unit, t.sound⟩
    else if isLowSurrogate unit then ⟨t.chars, none, false⟩
    else ⟨Char.ofNat unit :: t.chars, none, t.sound⟩

def finish (t : TextSoFar) : Option String :=
  if t.sound && t.high.isNone then some (String.ofList t.chars.reverse) else none

end TextSoFar

inductive Mode
  | between
  | word (seen : List Char)
  | number (seen : List Char)
  | text (t : TextSoFar)
  | escape (t : TextSoFar)
  | hex (t : TextSoFar) (left : Nat) (unit : Nat)

structure Scanner where
  mode : Mode
  /-- Finished tokens, last first. -/
  tokens : List Token

namespace Scanner

def start : Scanner := ⟨.between, []⟩

def isSpace (c : Char) : Bool := c = ' ' || c = '\n' || c = '\t' || c = '\r'

def isLetter (c : Char) : Bool := 'a' ≤ c && c ≤ 'z'

def continuesNumber (c : Char) : Bool :=
  isDigit c || c = '-' || c = '+' || c = '.' || c = 'e' || c = 'E'

def push (s : Scanner) (t : Token) : Scanner := ⟨.between, t :: s.tokens⟩

def beginToken (tokens : List Token) (c : Char) : Option Scanner :=
  if isSpace c then some ⟨.between, tokens⟩
  else if c = '"' then some ⟨.text .start, tokens⟩
  else if c = '{' then some ⟨.between, .openBrace :: tokens⟩
  else if c = '}' then some ⟨.between, .closeBrace :: tokens⟩
  else if c = '[' then some ⟨.between, .openBracket :: tokens⟩
  else if c = ']' then some ⟨.between, .closeBracket :: tokens⟩
  else if c = ',' then some ⟨.between, .comma :: tokens⟩
  else if c = ':' then some ⟨.between, .colon :: tokens⟩
  else if isDigit c || c = '-' then some ⟨.number [c], tokens⟩
  else if isLetter c then some ⟨.word [c], tokens⟩
  else none

def literal? (word : List Char) : Option Json :=
  if word = ['n', 'u', 'l', 'l'] then some .null
  else if word = ['t', 'r', 'u', 'e'] then some (.bool true)
  else if word = ['f', 'a', 'l', 's', 'e'] then some (.bool false)
  else none

def endWord (tokens : List Token) (seen : List Char) : Option (List Token) :=
  (literal? seen.reverse).map fun value => .scalar value :: tokens

def endNumber (tokens : List Token) (seen : List Char) : Option (List Token) :=
  (Numeral.read seen.reverse).map fun n => .scalar n.toJson :: tokens

def hexValue? (c : Char) : Option Nat :=
  if isDigit c then some (digitValue c)
  else if 'a' ≤ c && c ≤ 'f' then some (c.toNat - 'a'.toNat + 10)
  else if 'A' ≤ c && c ≤ 'F' then some (c.toNat - 'A'.toNat + 10)
  else none

def escaped? (c : Char) : Option Char :=
  if c = '"' || c = '\\' || c = '/' then some c
  else if c = 'b' then some (Char.ofNat 8)
  else if c = 'f' then some (Char.ofNat 12)
  else if c = 'n' then some '\n'
  else if c = 'r' then some '\r'
  else if c = 't' then some '\t'
  else none

def step (s : Scanner) (c : Char) : Option Scanner :=
  match s.mode with
  | .between => beginToken s.tokens c
  | .word seen =>
    if isLetter c then some ⟨.word (c :: seen), s.tokens⟩
    else (endWord s.tokens seen).bind (beginToken · c)
  | .number seen =>
    if continuesNumber c then some ⟨.number (c :: seen), s.tokens⟩
    else (endNumber s.tokens seen).bind (beginToken · c)
  | .text t =>
    if c = '"' then some (s.push (.text t.finish))
    else if c = '\\' then some ⟨.escape t, s.tokens⟩
    else if c.toNat < 0x20 then none
    else some ⟨.text (t.addChar c), s.tokens⟩
  | .escape t =>
    if c = 'u' then some ⟨.hex t 4 0, s.tokens⟩
    else (escaped? c).map fun e => ⟨.text (t.addChar e), s.tokens⟩
  | .hex t left unit =>
    (hexValue? c).map fun v =>
      let unit := unit * 16 + v
      if left ≤ 1 then ⟨.text (t.addUnit unit), s.tokens⟩ else ⟨.hex t (left - 1) unit, s.tokens⟩

def finish (s : Scanner) : Option (List Token) :=
  match s.mode with
  | .between => some s.tokens
  | .word seen => endWord s.tokens seen
  | .number seen => endNumber s.tokens seen
  | _ => none

end Scanner

def tokens? (text : List Char) : Option (List Token) :=
  ((text.foldlM Scanner.step .start).bind Scanner.finish).map List.reverse

end BuildPipeline.Json
