import BuildPipeline.Shell.Arithmetic
import BuildPipeline.Shell.Pattern
import BuildPipeline.Shell.State
import BuildPipeline.Shell.Syntax

/-!
From words to fields: parameters, calculations and outputs of commands are put in, what was not
quoted is split at separators, and fields that are patterns become the names that they match. How a
command is run for its output is a parameter.
-/
namespace BuildPipeline.Shell.Expansion

abbrev Runs := Command → State → String × State

inductive Atom
  | char (quoted : Bool) (c : Char)
  /-- Something quoted, which makes a field even if it is empty. -/
  | mark
  /-- White space at which a field ends. -/
  | gap (c : Char)
  /-- Another character at which a field ends, empty or not. -/
  | cut (c : Char)
  /-- The end of one argument among several. -/
  | bound
  deriving DecidableEq

def atoms (quoted : Bool) (s : String) : List Atom :=
  (if quoted then [.mark] else []) ++ s.toList.map (.char quoted)

def isBlank (c : Char) : Bool := c = ' ' || c = '\t' || c = '\n'

def splitAtoms (s : State) (quoted : Bool) (as : List Atom) : List Atom :=
  if quoted then as
  else as.map fun
    | .char false c =>
      if s.separators.contains c then (if isBlank c then .gap c else .cut c) else .char false c
    | a => a

/-- A value, which is split unless it is quoted. -/
def valueAtoms (s : State) (quoted : Bool) (value : String) : List Atom :=
  if quoted then atoms true value else splitAtoms s false (atoms false value)

def argumentAtoms (s : State) (quoted : Bool) : List Atom :=
  List.intercalate [.bound] (s.arguments.map (valueAtoms s quoted))

def joined (as : List Atom) : Field :=
  as.filterMap fun
    | .char quoted c => some (quoted, c)
    | .mark => none
    | .gap c | .cut c => some (false, c)
    | .bound => some (true, ' ')

/-- Splits into fields; a field is there once it has a character or a mark. The characters of the
field at hand stand last first. After white space that ended a field, a cut is part of the same
separator. -/
def fields (as : List Atom) (current : Option Field) (ended : Bool) : List Field :=
  match as with
  | [] => (current.map List.reverse).toList
  | .char quoted c :: rest => fields rest (some ((quoted, c) :: current.getD [])) false
  | .mark :: rest => fields rest (some (current.getD [])) false
  | .gap _ :: rest =>
    (current.map List.reverse).toList ++ fields rest none (ended || current.isSome)
  | .cut _ :: rest =>
    if ended then fields rest none false else (current.getD []).reverse :: fields rest none false
  | .bound :: rest => (current.map List.reverse).toList ++ fields rest none false

/-- A parameter that counts as given. -/
def given? (blank : Bool) (value : Option String) : Option String :=
  value.filter fun v => !(blank && v.isEmpty)

def isMissing (s : State) (name : String) : Bool :=
  s.isOn 'u' && name ≠ "@" && name ≠ "*" && (s.parameter? name).isNone

section
variable (runs : Runs)

mutual
/-- The atoms of a word, and the state after its commands and assignments. -/
def expand (budget : Nat) (word : Word) (s : State) : List Atom × State :=
  match budget, word with
  | 0, _ | _, [] => ([], s)
  | n + 1, part :: rest =>
    let (first, s) := expandPart n part s
    if s.isRunning then
      let (more, s) := expand n rest s
      (first ++ more, s)
    else (first, s)

def expandPart (budget : Nat) (part : Part) (s : State) : List Atom × State :=
  match budget, part with
  | 0, _ => ([], s)
  | _ + 1, .text quoted t => (atoms quoted t, s)
  | _ + 1, .output quoted command =>
    let (t, s) := runs command s
    (valueAtoms s quoted t, s)
  | n + 1, .calculation quoted word =>
    let (as, s) := expand n word s
    let told := (joined as).text
    match Arithmetic.calculate told s with
    | .ok (value, s) => (valueAtoms s quoted (toString value), s)
    | .error fault =>
      ([], if s.isRunning then s.abort (fault.message told) else s)
  | n + 1, .parameter quoted name use => expandUse n quoted name use s

def expandUse (budget : Nat) (quoted : Bool) (name : String) (use : Use)
    (s : State) : List Atom × State :=
  match budget, use with
  | 0, _ => ([], s)
  | _ + 1, .value =>
    if name = "@" || (name = "*" && !quoted) then (argumentAtoms s quoted, s)
    else match s.parameter? name with
      | some value => (valueAtoms s quoted value, s)
      | none =>
        if isMissing s name then ([], s.abort (name ++ ": parameter not set"))
        else (valueAtoms s quoted "", s)
  | _ + 1, .length =>
    if isMissing s name then ([], s.abort (name ++ ": parameter not set"))
    else if name = "@" || name = "*" then (atoms quoted (toString s.arguments.length), s)
    else (atoms quoted (toString ((s.parameter? name).getD "").utf8ByteSize), s)
  | n + 1, .fallback blank word =>
    match given? blank (s.parameter? name) with
    | some v => (valueAtoms s quoted v, s)
    | none =>
      let (as, s) := expand n word s
      (splitAtoms s quoted as, s)
  | n + 1, .replace blank word =>
    match given? blank (s.parameter? name) with
    | some _ =>
      let (as, s) := expand n word s
      (splitAtoms s quoted as, s)
    | none => (atoms quoted "", s)
  | n + 1, .assign blank word =>
    match given? blank (s.parameter? name) with
    | some v => (valueAtoms s quoted v, s)
    | none =>
      let (as, s) := expand n word s
      let value := (joined as).text
      if !s.isRunning then ([], s)
      else if !Reader.isName name.toList then ([], s.abort (name ++ ": bad variable name"))
      else if s.isFixed name then ([], s.abort (name ++ ": is read only"))
      else (valueAtoms s quoted value, s.assign name value)
  | n + 1, .demand blank word =>
    match given? blank (s.parameter? name) with
    | some v => (valueAtoms s quoted v, s)
    | none =>
      let (as, s) := expand n word s
      let told := (joined as).text
      let told := if !told.isEmpty then told
        else if blank then "parameter not set or null" else "parameter not set"
      ([], if s.isRunning then s.abort (name ++ ": " ++ told) else s)
  | n + 1, .strip side longest word =>
    if isMissing s name then ([], s.abort (name ++ ": parameter not set"))
    else
    let (as, s) := expand n word s
    let pattern := Pattern.ofField (joined as)
    let value := ((s.parameter? name).getD "").toList
    let left := match side with
      | .front => Pattern.stripFront longest pattern value
      | .back => Pattern.stripBack longest pattern value
    (valueAtoms s quoted (String.ofList left), s)
end

def withHome (s : State) (word : Word) : Word :=
  match word with
  | .text false t :: rest =>
    match t.toList with
    | ['~'] => if rest.isEmpty then [home t] else word
    | '~' :: '/' :: more => home t :: .text false (String.ofList ('/' :: more)) :: rest
    | _ => word
  | _ => word
where
  home (t : String) : Part := .text true ((s.value? "HOME").getD t)

def text (budget : Nat) (word : Word) (s : State) : String × State :=
  let (as, s) := expand runs budget (withHome s word) s
  ((joined as).text, s)

/-! ### Names -/

def splitField : Field → List Field
  | [] => [[]]
  | x :: rest =>
    if x.2 = '/' then [] :: splitField rest
    else match splitField rest with
      | [] => [[x]]
      | piece :: pieces => (x :: piece) :: pieces

/-- The names in a folder that a pattern matches, sorted; a dot at the front has to be given. -/
def matchingNames (files : FileSystem) (folder : String) (f : Field) : List String :=
  match files.list ⟨if folder.isEmpty then "." else folder⟩ with
  | .error _ => []
  | .ok entries =>
    let pattern := Pattern.ofField f
    let names := ("." :: ".." :: entries.map (·.1)) |>.filter fun name =>
      (name.toList.head? != some '.' || (f.head?.map (·.2)) == some '.') &&
        Pattern.isMatch pattern name.toList
    names.mergeSort fun a b => a ≤ b

/-- The paths that begin with `done` and that the rest of a pattern matches. -/
def matchingPaths (files : FileSystem) (done : String) : List Field → List String
  | [] => [done]
  | [last] =>
    if Pattern.isPattern last then (matchingNames files done last).map (done ++ ·)
    else if files.existsAt ⟨done ++ last.text⟩ then [done ++ last.text] else []
  | f :: rest =>
    if Pattern.isPattern f then
      (matchingNames files done f).flatMap fun name =>
        matchingPaths files (done ++ name ++ "/") rest
    else matchingPaths files (done ++ f.text ++ "/") rest

/-- A field, or the names that it matches as a pattern. -/
def names (files : FileSystem) (f : Field) : List String :=
  if Pattern.isPattern f then
    match matchingPaths files "" (splitField f) with
    | [] => [f.text]
    | found => found
  else [f.text]

def words (budget : Nat) : List Word → State → List String × State
  | [], s => ([], s)
  | word :: rest, s =>
    let (as, s) := expand runs budget (withHome s word) s
    if s.isRunning then
      let found := (fields as none false).flatMap fun f =>
        if s.isOn 'f' then [f.text] else names s.files f
      let (more, s) := words budget rest s
      (found ++ more, s)
    else ([], s)
end

end BuildPipeline.Shell.Expansion
