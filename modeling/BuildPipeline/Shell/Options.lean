/-!
Options among the arguments of a command: letters behind a dash, several of them in one argument if
they take no values, and long names behind two dashes.
-/
namespace BuildPipeline.Shell

structure OptionRules where
  plain : String := ""
  /-- Letters that take a value: the rest of their argument, or the next one. -/
  valued : String := ""
  /-- Long names for letters; without any, a dash is a letter like others. -/
  long : List (String × Char) := []
  /-- Whether options may follow operands. -/
  mixed : Bool := true

inductive OptionFault
  | unknown (letter : Char)
  | missingValue (letter : Char)
  | unknownName (argument : String)
  | missingValueOf (argument : String)
  | needlessValue (name : String)
  deriving DecidableEq

/-- Options in order, with their values, and the other arguments. -/
structure Options where
  given : List (Char × String) := []
  operands : List String := []

namespace Options

def has (o : Options) (letter : Char) : Bool := o.given.any (·.1 = letter)

def value? (o : Options) (letter : Char) : Option String := o.given.reverse.lookup letter

def last? (o : Options) (letters : String) : Option Char :=
  (o.given.reverse.find? fun g => letters.toList.contains g.1).map (·.1)

variable (rules : OptionRules)

/-- Letters within an argument; the last one may take the next argument as its value. -/
def readLetters (rest : List String) :
    List Char → Except OptionFault (List (Char × String) × List String)
  | [] => .ok ([], rest)
  | c :: cs =>
    if rules.valued.toList.contains c then
      match cs, rest with
      | [], v :: rest => .ok ([(c, v)], rest)
      | [], [] => .error (.missingValue c)
      | cs, rest => .ok ([(c, String.ofList cs)], rest)
    else if rules.plain.toList.contains c then do
      let (more, rest) ← readLetters rest cs
      return ((c, "") :: more, rest)
    else .error (.unknown c)

/-- The long names that a text begins; only the text itself if it is one. -/
def candidates (text : String) : List (String × Char) :=
  match rules.long.lookup text with
  | some c => [(text, c)]
  | none => rules.long.filter fun l => l.1.startsWith text

def readName (argument : String) (rest : List String) :
    Except OptionFault ((Char × String) × List String) :=
  let cs := argument.toList.drop 2
  let name := String.ofList (cs.takeWhile (· ≠ '='))
  let value := cs.drop (name.length + 1)
  let hasValue := cs.length ≠ name.length
  match candidates rules name with
  | [] => .error (.unknownName argument)
  | (known, c) :: _ =>
    if rules.valued.toList.contains c then
      if hasValue then .ok ((c, String.ofList value), rest)
      else match rest with
        | v :: rest => .ok ((c, v), rest)
        | [] => .error (.missingValueOf ("--" ++ known))
    else if hasValue then .error (.needlessValue ("--" ++ known))
    else .ok ((c, ""), rest)

def readWithin (budget : Nat) (arguments : List String) : Except OptionFault Options :=
  match budget, arguments with
  | 0, _ | _, [] => .ok {}
  | _ + 1, "--" :: rest => .ok { operands := rest }
  | n + 1, a :: rest =>
    match a.toList with
    | '-' :: c :: cs =>
      if c = '-' && !rules.long.isEmpty then do
        let (found, rest) ← readName rules a rest
        let o ← readWithin n rest
        return { o with given := found :: o.given }
      else do
        let (found, rest) ← readLetters rules rest (c :: cs)
        let o ← readWithin n rest
        return { o with given := found ++ o.given }
    | _ =>
      if rules.mixed then do
        let o ← readWithin n rest
        return { o with operands := a :: o.operands }
      else .ok { operands := a :: rest }

def read (arguments : List String) : Except OptionFault Options :=
  readWithin rules (arguments.length + 1) arguments

end Options
end BuildPipeline.Shell
