import BuildPipeline.Glob.Basic

/-!
Reading a pattern character by character. Two stars cross folders only where they are a whole
component; a star in any other place stands for itself.
-/
namespace BuildPipeline.Glob

/-- A character class as read so far, last range first. -/
structure ClassSoFar where
  negated : Bool
  ranges : List (Char × Char)
  /-- Nothing has been read after the bracket and its negation. -/
  first : Bool
  inRange : Bool

inductive Mode
  | plain
  | escape
  /-- One star, with the character before it. -/
  | star (before : Option Char)
  | twoStars (before : Option Char)
  | classStart
  | classBody (c : ClassSoFar)

/-- A pattern as read so far. -/
structure Partial where
  mode : Mode
  last : Option Char
  /-- The branch at hand, last token first. -/
  current : List Token
  /-- Open groups, innermost first: finished branches, and the branch that holds the group. -/
  groups : List (List (List Token) × List Token)

namespace Partial

def start : Partial := ⟨.plain, none, [], []⟩

def push (p : Partial) (t : Token) : Partial := { p with mode := .plain, current := t :: p.current }

def closeGroup (p : Partial) : Except SyntaxError Partial :=
  match p.groups with
  | [] => .error .unopenedGroup
  | (done, outer) :: rest =>
    .ok { p with
      current := .alternates (p.current :: done |>.map List.reverse |>.reverse) :: outer
      groups := rest }

def nextBranch (p : Partial) : Partial :=
  match p.groups with
  | [] => p.push (.literal ',')
  | (done, outer) :: rest => { p with current := [], groups := (p.current :: done, outer) :: rest }

def plainChar (p : Partial) (c : Char) : Except SyntaxError Partial :=
  let p := { p with mode := .plain }
  if c = '?' then .ok (p.push .any)
  else if c = '*' then .ok { p with mode := .star p.last }
  else if c = '[' then .ok { p with mode := .classStart }
  else if c = '{' then .ok { p with current := [], groups := ([], p.current) :: p.groups }
  else if c = '}' then p.closeGroup
  else if c = ',' then .ok p.nextBranch
  else if c = '\\' then .ok { p with mode := .escape }
  else .ok (p.push (.literal c))

def twoPlainStars (p : Partial) : Partial := (p.push .zeroOrMore).push .zeroOrMore

/-- Two stars after a slash take its place, and the slash after them too. -/
def crossFolders (p : Partial) (atEnd : Bool) : Partial :=
  match p.current with
  | .recursiveStart :: _ => { p with mode := .plain }
  | .recursiveEnd :: _ => { p with mode := .plain }
  | current =>
    let t := if atEnd then .recursiveEnd else .recursiveBetween
    { p with mode := .plain, current := t :: current.drop 1 }

/-- Whether two stars begin a component, given the character before them. -/
def beginsComponent (p : Partial) (before : Option Char) : Bool :=
  before == some '/' || (!p.groups.isEmpty && (before == some ',' || before == some '{'))

/-- What follows two stars: a character, which they may take in, or the end. -/
def afterTwoStars (p : Partial) (before next : Option Char) : Except SyntaxError Partial :=
  let again (p : Partial) : Except SyntaxError Partial :=
    match next with
    | some c => p.plainChar c
    | none => .ok p
  if p.current.isEmpty then
    match next with
    | none => .ok (p.push .recursiveStart)
    | some '/' => .ok (p.push .recursiveStart)
    | some _ => again p.twoPlainStars
  else if !p.beginsComponent before then again p.twoPlainStars
  else match next with
    | none => .ok (p.crossFolders true)
    | some '/' => .ok (p.crossFolders false)
    | some c =>
      if !p.groups.isEmpty && (c = ',' || c = '}') then again (p.crossFolders true)
      else again p.twoPlainStars

def endRange (c : ClassSoFar) (last : Char) : Except SyntaxError ClassSoFar :=
  match c.ranges with
  | (first, _) :: rest =>
    if last < first then .error (.invalidRange first last)
    else .ok { c with ranges := (first, last) :: rest, first := false, inRange := false }
  | [] => .ok { c with ranges := [(last, last)], first := false, inRange := false }

def single (c : ClassSoFar) (x : Char) : ClassSoFar :=
  { c with ranges := (x, x) :: c.ranges, first := false, inRange := false }

def classChar (p : Partial) (c : ClassSoFar) (x : Char) : Except SyntaxError Partial :=
  let body (c : ClassSoFar) : Partial := { p with mode := .classBody c }
  if x = ']' && !c.first then
    let c := if c.inRange then single c '-' else c
    .ok (p.push (.oneOf c.negated c.ranges.reverse))
  else if x = ']' then .ok (body (single c x))
  else if x = '-' && !c.first && !c.inRange then .ok (body { c with inRange := true })
  else if c.inRange then (endRange c x).map body
  else .ok (body (single c x))

def step (p : Partial) (c : Char) : Except SyntaxError Partial :=
  let next : Except SyntaxError Partial :=
    match p.mode with
    | .plain => p.plainChar c
    | .escape => .ok (p.push (.literal c))
    | .star before =>
      if c = '*' then .ok { p with mode := .twoStars before }
      else (p.push .zeroOrMore).plainChar c
    | .twoStars before => p.afterTwoStars before (some c)
    | .classStart =>
      if c = '!' ∨ c = '^' then .ok { p with mode := .classBody ⟨true, [], true, false⟩ }
      else p.classChar ⟨false, [], true, false⟩ c
    | .classBody soFar => p.classChar soFar c
  next.map fun p => { p with last := some c }

def finish (p : Partial) : Except SyntaxError (List Token) :=
  let ended : Except SyntaxError Partial :=
    match p.mode with
    | .plain => .ok p
    | .escape => .error .danglingEscape
    | .star _ => .ok (p.push .zeroOrMore)
    | .twoStars before => p.afterTwoStars before none
    | .classStart => .error .unclosedClass
    | .classBody _ => .error .unclosedClass
  match ended with
  | .error e => .error e
  | .ok p => if p.groups.isEmpty then .ok p.current.reverse else .error .unclosedGroup

end Partial

def read (pattern : String) : Except SyntaxError (List Token) :=
  match pattern.toList.foldlM Partial.step .start with
  | .error e => .error e
  | .ok p => p.finish

end BuildPipeline.Glob
