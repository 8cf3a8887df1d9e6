import BuildPipeline.Count
import BuildPipeline.Text.Blank
import BuildPipeline.Text.DecimalDigit
import BuildPipeline.Text.WordCharacter

/-!
Looking for numbers in text. A matcher tells whether its pattern begins at the front of a text, what
it found, and what follows.
-/
namespace BuildPipeline.Scrape

abbrev Matcher (α : Type) := List Char → Option (α × List Char)

/-- The digits at the front, at least one. -/
def digits : Matcher (List Char) := fun text =>
  let run := text.takeWhile Text.isDecimalDigit
  if run.isEmpty then none else some (run, text.dropWhile Text.isDecimalDigit)

def blanks : Matcher Unit := fun text =>
  match text with
  | c :: rest => if Text.isBlank c then some ((), rest.dropWhile Text.isBlank) else none
  | [] => none

def word : Matcher Unit := fun text =>
  match text with
  | c :: rest =>
    if Text.isWordCharacter c then some ((), rest.dropWhile Text.isWordCharacter) else none
  | [] => none

def exactly (expected : String) : Matcher Unit := fun text =>
  if expected.toList.isPrefixOf text then some ((), text.drop expected.toList.length) else none

/-- The letter at the front, if it is there. -/
def optionally (c : Char) (text : List Char) : List Char :=
  match text with
  | x :: rest => if x = c then rest else text
  | [] => []

/-- What a matcher finds at the first place where it matches. -/
def first? {α : Type} (m : Matcher α) : List Char → Option α
  | [] => (m []).map (·.1)
  | c :: rest =>
    match m (c :: rest) with
    | some found => some found.1
    | none => first? m rest

structure Number where
  digits : List Char
  after : List Char
  deriving DecidableEq

/-- Every number in a text, from the front to the end. No digit stands right before or after the
digits of a number. -/
def numbers : List Char → List Number
  | [] => []
  | c :: rest =>
    if Text.isDecimalDigit c then
      let after := rest.dropWhile Text.isDecimalDigit
      ⟨c :: rest.takeWhile Text.isDecimalDigit, after⟩ :: numbers after
    else numbers rest
  termination_by text => text.length
  decreasing_by
    · exact Nat.lt_succ_of_le (List.dropWhile_sublist _).length_le
    · exact Nat.lt_succ_self _

/-- The count that digits write; digits beyond ASCII and numbers beyond a count have none. -/
def count? (digits : List Char) : Option Count := (Text.decimalValue? digits).bind Count.ofNat?

def countOrZero (digits? : Option (List Char)) : Count := (digits?.bind count?).getD 0

def spaced (noun : String) : Matcher Unit := fun text => do
  let (_, rest) ← blanks text
  exactly noun rest

end BuildPipeline.Scrape
