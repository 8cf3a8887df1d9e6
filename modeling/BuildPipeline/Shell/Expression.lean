import BuildPipeline.Shell.Pattern

/-!
Regular expressions in the two dialects that programs know. Of the matches at the first place that
has one the longest is taken, and of equally long ones the one whose first parts are longest.
-/
namespace BuildPipeline.Shell

inductive Expression
  | one (item : Pattern.Item)
  | lineStart
  | lineEnd
  /-- The edge of a word: at its start, at its end, at either, or at neither. -/
  | edge (atStart atEnd : Bool) (negated : Bool)
  /-- A part whose match is remembered. -/
  | group (index : Nat) (inner : Expression)
  /-- What a group matched, once more. -/
  | again (index : Nat)
  | sequence (parts : List Expression)
  | either (branches : List Expression)
  | repeated (least : Nat) (most : Option Nat) (inner : Expression)
  deriving Inhabited

namespace Expression

/-! ### Reading -/

inductive Fault
  | unmatchedBracket
  | unmatchedParenthesis
  | unmatchedClosing
  | unmatchedBrace
  | invalidRepetition
  | invalidContent
  | trailingBackslash
  | invalidReference
  | invalidClass
  deriving DecidableEq

def Fault.message : Fault → String
  | .unmatchedBracket => "Unmatched [, [^, [:, [., or [="
  | .unmatchedParenthesis => "Unmatched ( or \\("
  | .unmatchedClosing => "Unmatched ) or \\)"
  | .unmatchedBrace => "Unmatched \x7b or \\\x7b"
  | .invalidRepetition => "Invalid preceding regular expression"
  | .invalidContent => "Invalid content of \\\x7b\\\x7d"
  | .trailingBackslash => "Trailing backslash"
  | .invalidReference => "Invalid back reference"
  | .invalidClass => "Invalid character class name"

/-- The ranges of a set up to its closing bracket, and what follows. -/
def readSet (budget : Nat) (first : Bool) (cs : List Char) :
    Except Fault (List (Char × Char) × List Char) :=
  match budget with
  | 0 => .error .unmatchedBracket
  | n + 1 =>
    match cs with
    | [] => .error .unmatchedBracket
    | ']' :: rest =>
      if first then do
        let (more, rest) ← readSet n false rest
        return ((']', ']') :: more, rest)
      else return ([], rest)
    | '[' :: ':' :: rest => do
      let name := rest.takeWhile Char.isAlpha
      match rest.drop name.length with
      | ':' :: ']' :: rest => match Pattern.className? (String.ofList name) with
        | some ranges =>
          let (more, rest) ← readSet n false rest
          return (ranges ++ more, rest)
        | none => .error .invalidClass
      | _ => .error .unmatchedBracket
    | a :: '-' :: ']' :: rest => do
      let (more, rest) ← readSet n false ('-' :: ']' :: rest)
      return ((a, a) :: more, rest)
    | a :: '-' :: b :: rest => do
      let (more, rest) ← readSet n false rest
      return ((a, b) :: more, rest)
    | a :: rest => do
      let (more, rest) ← readSet n false rest
      return ((a, a) :: more, rest)

def wordRanges : List (Char × Char) := [('0', '9'), ('A', 'Z'), ('_', '_'), ('a', 'z')]

def spaceRanges : List (Char × Char) := [(' ', ' '), ('\t', '\x0d')]

def escape? (c : Char) : Option Expression :=
  match c with
  | 'w' => some (.one (.set false wordRanges))
  | 'W' => some (.one (.set true wordRanges))
  | 's' => some (.one (.set false spaceRanges))
  | 'S' => some (.one (.set true spaceRanges))
  | 'b' => some (.edge true true false)
  | 'B' => some (.edge true true true)
  | '<' => some (.edge true false false)
  | '>' => some (.edge false true false)
  | 'n' => some (.one (.char '\n'))
  | 't' => some (.one (.char '\t'))
  | _ => none

/-- How often something may repeat, between braces. -/
def readCounts (extended : Bool) (cs : List Char) :
    Except Fault ((Nat × Option Nat) × List Char) :=
  let least := cs.takeWhile Char.isDigit
  let rest := cs.drop least.length
  let number (ds : List Char) : Nat := ds.foldl (fun n c => n * 10 + (c.toNat - 48)) 0
  let (most, rest) := match rest with
    | ',' :: rest =>
      let ds := rest.takeWhile Char.isDigit
      (if ds.isEmpty then none else some (number ds), rest.drop ds.length)
    | rest => (some (number least), rest)
  match extended, rest with
  | true, '}' :: rest => .ok ((number least, most), rest)
  | false, '\\' :: '}' :: rest => .ok ((number least, most), rest)
  | _, [] => .error .unmatchedBrace
  | _, _ => .error .invalidContent

def repetition? (extended : Bool) (cs : List Char) :
    Except Fault (Option ((Nat × Option Nat) × List Char)) :=
  match extended, cs with
  | _, '*' :: rest => .ok (some ((0, none), rest))
  | true, '+' :: rest | false, '\\' :: '+' :: rest => .ok (some ((1, none), rest))
  | true, '?' :: rest | false, '\\' :: '?' :: rest => .ok (some ((0, some 1), rest))
  | true, '{' :: rest =>
    if rest.head?.any (fun c => c.isDigit || c = ',') then (readCounts true rest).map some
    else .ok none
  | false, '\\' :: '{' :: rest => (readCounts false rest).map some
  | _, _ => .ok none

def endsBranch (extended : Bool) : List Char → Bool
  | [] => true
  | '|' :: _ | ')' :: _ => extended
  | '\\' :: '|' :: _ | '\\' :: ')' :: _ => !extended
  | _ => false

section
variable (extended : Bool)

mutual
/-- Branches, the number of groups so far, and what follows them. -/
def readBranches (budget groups : Nat) (cs : List Char) :
    Except Fault (Expression × Nat × List Char) :=
  match budget with
  | 0 => .error .invalidContent
  | n + 1 => do
    let (first, groups, rest) ← readParts n groups true cs
    let other? : Option (List Char) := match extended, rest with
      | true, '|' :: rest | false, '\\' :: '|' :: rest => some rest
      | _, _ => none
    match other? with
    | none => return (.sequence first, groups, rest)
    | some rest =>
      let (more, groups, rest) ← readBranches n groups rest
      match more with
      | .either branches => return (.either (.sequence first :: branches), groups, rest)
      | last => return (.either [.sequence first, last], groups, rest)

def readParts (budget groups : Nat) (atFront : Bool) (cs : List Char) :
    Except Fault (List Expression × Nat × List Char) :=
  match budget with
  | 0 => .error .invalidContent
  | n + 1 =>
    if endsBranch extended cs then return ([], groups, cs)
    else do
      let (part, groups, rest) ← readPart n groups atFront cs
      let anchored := part matches .lineStart
      if anchored && !extended then
        let (more, groups, rest) ← readParts n groups true rest
        return (part :: more, groups, rest)
      else
        let (part, rest) ← readRepetitions n part rest
        let (more, groups, rest) ← readParts n groups false rest
        return (part :: more, groups, rest)

def readRepetitions (budget : Nat) (part : Expression) (cs : List Char) :
    Except Fault (Expression × List Char) :=
  match budget with
  | 0 => .error .invalidContent
  | n + 1 => do
    match ← repetition? extended cs with
    | none => return (part, cs)
    | some ((least, most), rest) => readRepetitions n (.repeated least most part) rest

def readPart (budget groups : Nat) (atFront : Bool) (cs : List Char) :
    Except Fault (Expression × Nat × List Char) :=
  match budget with
  | 0 => .error .invalidContent
  | n + 1 =>
    let group (rest : List Char) : Except Fault (Expression × Nat × List Char) := do
      let (inner, after, rest) ← readBranches n (groups + 1) rest
      match extended, rest with
      | true, ')' :: rest | false, '\\' :: ')' :: rest =>
        return (.group (groups + 1) inner, after, rest)
      | _, _ => .error .unmatchedParenthesis
    match cs with
    | [] => return (.sequence [], groups, [])
    | '.' :: rest => return (.one .one, groups, rest)
    | '[' :: '^' :: rest => do
      let (ranges, rest) ← readSet (rest.length + 1) true rest
      return (.one (.set true ranges), groups, rest)
    | '[' :: rest => do
      let (ranges, rest) ← readSet (rest.length + 1) true rest
      return (.one (.set false ranges), groups, rest)
    | '\\' :: c :: rest =>
      if c = '(' && !extended then group rest
      else if c.isDigit && c ≠ '0' then
        let index := c.toNat - 48
        if groups < index then .error .invalidReference
        else return (.again index, groups, rest)
      else return ((escape? c).getD (.one (.char c)), groups, rest)
    | ['\\'] => .error .trailingBackslash
    | '^' :: rest =>
      if extended || atFront then return (.lineStart, groups, rest)
      else return (.one (.char '^'), groups, rest)
    | '$' :: rest =>
      if extended || endsBranch false rest then return (.lineEnd, groups, rest)
      else return (.one (.char '$'), groups, rest)
    | '(' :: rest =>
      if extended then group rest else return (.one (.char '('), groups, rest)
    | c :: rest => return (.one (.char c), groups, rest)
end

def read (text : List Char) : Except Fault Expression := do
  let (e, _, rest) ← readBranches extended (text.length * 4 + 8) 0 text
  if rest.isEmpty then return e
  else if extended then .error .unmatchedClosing
  else .error .unmatchedClosing
end

/-! ### Matching -/

/-- A place in a text, and what the groups have matched. -/
structure Hit where
  place : Nat
  groups : List (Nat × Nat × Nat)
  deriving DecidableEq

/-- Of hits at the same place only the first counts. -/
def distinct (hits : List Hit) : List Hit :=
  hits.foldl (fun done h => if done.any (·.place = h.place) then done else done ++ [h]) []

def isWordChar (c : Option Char) : Bool := c.any fun c => c.isAlphanum || c = '_'

section
-- The text, and whether letters match in either case.
variable (text : Array Char) (folded : Bool)

def fits (item : Pattern.Item) (c : Char) : Bool :=
  item.fits c || (folded && (item.fits c.toLower || item.fits c.toUpper))

def isEdge (atStart atEnd : Bool) (place : Nat) : Bool :=
  let before := isWordChar (if place = 0 then none else text[place - 1]?)
  let after := isWordChar text[place]?
  (atStart && !before && after) || (atEnd && before && !after)

/-- The places after one more round at a time, until there are no new ones. -/
def rounds (step : Hit → List Hit) (budget : Nat) (done frontier : List Hit) : List (List Hit) :=
  match budget with
  | 0 => []
  | n + 1 =>
    let next := (distinct (frontier.flatMap step)).filter fun h =>
      !(done.any (·.place = h.place))
    if next.isEmpty then [] else next :: rounds step n (done ++ next) next

def times (step : Hit → List Hit) : Nat → List Hit → List Hit
  | 0, hits => hits
  | n + 1, hits => times step n (distinct (hits.flatMap step))

mutual
/-- Where a match that begins at a place may end, the preferred ends first. -/
def ends (e : Expression) (h : Hit) : List Hit :=
  match e with
  | .one item => match text[h.place]? with
    | some c => if fits folded item c then [{ h with place := h.place + 1 }] else []
    | none => []
  | .lineStart => if h.place = 0 then [h] else []
  | .lineEnd => if h.place = text.size then [h] else []
  | .edge atStart atEnd negated =>
    if isEdge text atStart atEnd h.place != negated then [h] else []
  | .group index inner => (ends inner h).map fun r =>
    { r with groups := (index, h.place, r.place) :: r.groups.filter (·.1 ≠ index) }
  | .again index => match h.groups.lookup index with
    | none => []
    | some (first, last) =>
      let piece := (text.extract first last).toList
      if (text.extract h.place (h.place + piece.length)).toList = piece then
        [{ h with place := h.place + piece.length }]
      else []
  | .sequence parts => endsAll parts [h]
  | .either branches => distinct (endsSome branches h)
  | .repeated least most inner =>
    let first := times (fun h => ends inner h) least [h]
    let more := match most with
      | some m => rounds (fun h => ends inner h) (m - least) first first
      | none => rounds (fun h => ends inner h) (text.size + 1) first first
    distinct ((first :: more).reverse.flatten)

def endsAll (parts : List Expression) (hits : List Hit) : List Hit :=
  match parts with
  | [] => hits
  | p :: rest => endsAll rest (distinct (hits.flatMap fun h => ends p h))

def endsSome (branches : List Expression) (h : Hit) : List Hit :=
  match branches with
  | [] => []
  | b :: rest => ends b h ++ endsSome rest h
end

/-- The longest match that begins at a place. -/
def matchAt (e : Expression) (place : Nat) : Option Hit :=
  (ends text folded e ⟨place, []⟩).foldl
    (fun best h => match best with
      | some b => if b.place < h.place then some h else some b
      | none => some h)
    none

structure Match where
  first : Nat
  last : Nat
  groups : List (Nat × Nat × Nat)

def findFrom (e : Expression) (place : Nat) : Option Match :=
  (List.range (text.size + 1 - place)).findSome? fun k =>
    (matchAt text folded e (place + k)).map fun h => ⟨place + k, h.place, h.groups⟩

def occurs (e : Expression) : Bool := (findFrom text folded e 0).isSome
end

def Match.group (m : Match) (text : Array Char) (index : Nat) : List Char :=
  if index = 0 then (text.extract m.first m.last).toList
  else match m.groups.lookup index with
    | some (first, last) => (text.extract first last).toList
    | none => []

end Expression
end BuildPipeline.Shell
