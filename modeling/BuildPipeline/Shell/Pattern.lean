/-!
Patterns for names and for ends of values: a star stands for any characters, a question mark for one
and brackets for one of a set. Quoted characters stand for themselves.
-/
namespace BuildPipeline.Shell

abbrev Field := List (Bool × Char)

def Field.text (f : Field) : String := String.ofList (f.map (·.2))

namespace Pattern

inductive Item
  | char (c : Char)
  | one
  | many
  | set (negated : Bool) (ranges : List (Char × Char))
  deriving DecidableEq

def className? (name : String) : Option (List (Char × Char)) :=
  [("alpha", [('A', 'Z'), ('a', 'z')]), ("digit", [('0', '9')]),
    ("alnum", [('0', '9'), ('A', 'Z'), ('a', 'z')]), ("upper", [('A', 'Z')]),
    ("lower", [('a', 'z')]), ("space", [(' ', ' '), ('\t', '\x0d')]),
    ("blank", [(' ', ' '), ('\t', '\t')]),
    ("punct", [('!', '/'), (':', '@'), ('[', Char.ofNat 96), ('{', '~')]),
    ("print", [(' ', '~')]), ("graph", [('!', '~')]),
    ("cntrl", [('\x00', '\x1f'), ('\x7f', '\x7f')]),
    ("xdigit", [('0', '9'), ('A', 'F'), ('a', 'f')])].lookup name

/-- A class of characters at the front, and what follows it. -/
def readClass? : Field → Option (List (Char × Char) × Field)
  | (false, '[') :: (false, ':') :: rest =>
    let name := rest.takeWhile fun x => !x.1 && x.2.isAlpha
    match className? (Field.text name), rest.drop name.length with
    | some ranges, (false, ':') :: (false, ']') :: rest => some (ranges, rest)
    | _, _ => none
  | _ => none

/-- The ranges of a set up to its closing bracket, and what follows. -/
def readSet (budget : Nat) (first : Bool) (f : Field) : Option (List (Char × Char) × Field) :=
  match budget, f with
  | 0, _ | _, [] => none
  | n + 1, (quoted, c) :: rest =>
    if c = ']' && !quoted && !first then some ([], rest)
    else match readClass? f with
      | some (ranges, rest) => (readSet n false rest).map fun r => (ranges ++ r.1, r.2)
      | none => match rest with
        | (false, '-') :: (q, d) :: after =>
          if d = ']' && !q then
            (readSet n false rest).map fun r => ((c, c) :: r.1, r.2)
          else (readSet n false after).map fun r => ((c, d) :: r.1, r.2)
        | rest => (readSet n false rest).map fun r => ((c, c) :: r.1, r.2)

def readNegation : Field → Bool × Field
  | (false, '!') :: rest => (true, rest)
  | (false, '^') :: rest => (true, rest)
  | rest => (false, rest)

/-- The items of a pattern; a bracket that is never closed stands for itself. -/
def items (budget : Nat) (f : Field) : List Item :=
  match budget, f with
  | 0, _ | _, [] => []
  | n + 1, (true, c) :: rest => .char c :: items n rest
  | n + 1, (false, c) :: rest =>
    if c = '*' then .many :: items n rest
    else if c = '?' then .one :: items n rest
    else if c = '[' then
      let (negated, inner) := readNegation rest
      match readSet (inner.length + 1) true inner with
      | some (ranges, after) => .set negated ranges :: items n after
      | none => .char c :: items n rest
    else .char c :: items n rest

def ofField (f : Field) : List Item := items (f.length + 1) f

def Item.fits : Item → Char → Bool
  | .char c, d => c = d
  | .one, _ | .many, _ => true
  | .set negated ranges, d => (ranges.any fun r => r.1 ≤ d && d ≤ r.2) != negated

/-- For each place in a text, whether it is reached once one more item has been matched. -/
def advance (item : Item) (text : List Char) (places : List Bool) : List Bool :=
  match item with
  | .many => places.drop 1 |>.foldl
      (fun done p => (p || done.headD false) :: done) (places.take 1) |>.reverse
  | item => false :: (places.zip text).map fun p => p.1 && item.fits p.2

def reached (items : List Item) (text : List Char) : List Bool :=
  items.foldl (fun places item => advance item text places) (true :: text.map fun _ => false)

def isMatch (items : List Item) (text : List Char) : Bool := (reached items text).getLastD false

def isPattern (f : Field) : Bool := f.any fun x => !x.1 && "*?[".toList.contains x.2

/-- What is left of a text when the shortest or longest match at its front is taken off. -/
def stripFront (longest : Bool) (pattern : List Item) (cs : List Char) : List Char :=
  let ends := reached pattern cs
  let lengths := (List.range (cs.length + 1)).zip ends |>.filterMap fun e =>
    if e.2 then some e.1 else none
  match (if longest then lengths.getLast? else lengths.head?) with
  | some n => cs.drop n
  | none => cs

def stripBack (longest : Bool) (pattern : List Item) (cs : List Char) : List Char :=
  (stripFront longest pattern.reverse cs.reverse).reverse

end Pattern
end BuildPipeline.Shell
