import BuildPipeline.Shell.Expression
import BuildPipeline.Shell.Tools.Basic

/-!
The stream editor: a script of commands is carried out on each line of the input.
-/
namespace BuildPipeline.Shell.Tools.Sed

/-! ### Scripts -/

inductive Address
  | line (number : Nat)
  | last
  /-- Every so many lines from one on. -/
  | every (first step : Nat)
  /-- Lines that an expression matches; no expression stands for the one used last. -/
  | fits (e : Option Expression) (folded : Bool)

inductive Until
  | address (a : Address)
  | lines (count : Nat)
  | multiple (of : Nat)

structure Range where
  first : Option Address := none
  last : Option Until := none
  /-- Whether the end is looked for from the first line on. -/
  fromStart : Bool := false
  negated : Bool := false

inductive Case
  | upper
  | lower
  deriving DecidableEq

inductive Piece
  | char (c : Char)
  | group (index : Nat)
  /-- A change of case from here on, or for the next letter only. -/
  | change (c : Option Case) (once : Bool)

structure Substitution where
  expression : Option Expression
  folded : Bool
  pieces : List Piece
  global : Bool
  /-- The number of the first match that is replaced. -/
  nth : Nat
  tells : Bool
  file : Option String

inductive Action
  /-- Commands up to a place, to which one goes if the address does not hold. -/
  | block (stop : Nat)
  | nothing
  | substitute (s : Substitution)
  | transliterate (pairs : List (Char × Char))
  | tell (firstLine : Bool)
  | delete (firstLine : Bool)
  | next (append : Bool)
  | hold (append : Bool)
  | get (append : Bool)
  | exchange
  | number
  | list
  | quit (status : Nat) (silent : Bool)
  | append (text : List Char)
  | insert (text : List Char)
  | change (text : List Char)
  /-- Goes to a label, or to the end; perhaps only after a substitution, or without one. -/
  | branch (after : Option Bool) (label : String)
  | label (name : String)
  | readFile (name : String)
  | writeFile (firstLine : Bool) (name : String)
  | clear

structure Step where
  range : Range
  action : Action

structure Script where
  steps : Array Step := #[]
  opened : List Nat := []

/-- What is wrong with a script, and what of it had not been read when that was found. -/
structure ScriptFault where
  text : String
  left : List Char := []

/-- A text up to an unquoted delimiter, and what follows. A quoted delimiter stands for itself, and
line feeds may be written as letters. -/
def delimited (d : Char) (inSet : Bool) (isPattern : Bool) :
    List Char → Option (List Char × List Char)
  | [] => none
  | '\\' :: c :: rest =>
    let quoted := if c = d then (if isPattern then [c] else ['\\', c])
      else if c = 'n' && isPattern then ['\n'] else ['\\', c]
    let quoted := if c = d && !isPattern && d ≠ '&' && !d.isDigit then [c] else quoted
    (delimited d inSet isPattern rest).map fun r => (quoted ++ r.1, r.2)
  | c :: rest =>
    if c = d && !inSet then some ([], rest)
    else if c = '\n' && isPattern && !inSet then none
    else
      let inSet := isPattern && (if inSet then c ≠ ']' else c = '[')
      (delimited d inSet isPattern rest).map fun r => (c :: r.1, r.2)

def readPieces : List Char → List Piece
  | [] => []
  | '&' :: rest => .group 0 :: readPieces rest
  | '\\' :: c :: rest =>
    let piece : Piece :=
      if c.isDigit then .group (c.toNat - 48)
      else match c with
        | 'n' => .char '\n'
        | 't' => .char '\t'
        | 'U' => .change (some .upper) false
        | 'L' => .change (some .lower) false
        | 'E' => .change none false
        | 'u' => .change (some .upper) true
        | 'l' => .change (some .lower) true
        | c => .char c
    piece :: readPieces rest
  | c :: rest => .char c :: readPieces rest

def neededGroups (pieces : List Piece) : Nat :=
  pieces.foldl (fun n p => match p with
    | .group k => max n k
    | _ => n) 0

mutual
def groupCount : Expression → Nat
  | .group index inner => max index (groupCount inner)
  | .sequence parts | .either parts => groupCountAll parts
  | .repeated _ _ inner => groupCount inner
  | _ => 0

def groupCountAll : List Expression → Nat
  | [] => 0
  | e :: rest => max (groupCount e) (groupCountAll rest)
end

def isBlank (c : Char) : Bool := c = ' ' || c = '\t'

def readNumber (cs : List Char) : Option Nat × List Char :=
  let ds := cs.takeWhile Char.isDigit
  ((String.ofList ds).toNat?, cs.drop ds.length)

section
variable (extended : Bool)

def readExpression (text left : List Char) : Except ScriptFault (Option Expression) :=
  if text.isEmpty then .ok none
  else match Expression.read extended text with
    | .ok e => .ok (some e)
    | .error fault => .error ⟨fault.message, left⟩

def readAddress (cs : List Char) : Except ScriptFault (Option Address × List Char) :=
  let expression (d : Char) (rest : List Char) : Except ScriptFault (Option Address × List Char) :=
    match delimited d false true rest with
    | none => .error ⟨"unterminated address regex", []⟩
    | some (text, rest) => do
      let e ← readExpression extended text rest
      match rest with
      | 'I' :: rest => return (some (.fits e true), rest)
      | rest => return (some (.fits e false), rest)
  match cs with
  | '$' :: rest => .ok (some .last, rest)
  | '/' :: rest => expression '/' rest
  | '\\' :: d :: rest => expression d rest
  | cs => match readNumber cs with
    | (some n, '~' :: rest) =>
      let (step, rest) := readNumber rest
      .ok (some (.every n (step.getD 0)), rest)
    | (some n, rest) => .ok (some (.line n), rest)
    | (none, rest) => .ok (none, rest)

def readUntil (cs : List Char) : Except ScriptFault (Until × List Char) :=
  match cs with
  | '+' :: rest =>
    let (n, rest) := readNumber rest
    .ok (.lines (n.getD 0), rest)
  | '~' :: rest =>
    let (n, rest) := readNumber rest
    .ok (.multiple (n.getD 0), rest)
  | cs => do
    match ← readAddress extended cs with
    | (some a, rest) => return (.address a, rest)
    | (none, rest) => .error ⟨"unexpected " ++ backQuoted ",", rest⟩

def readRange (cs : List Char) : Except ScriptFault (Range × List Char) := do
  let (first, rest) ← readAddress extended cs
  let rest := rest.dropWhile isBlank
  let (last, rest) ← match first, rest with
    | some _, ',' :: rest => do
      let (last, rest) ← readUntil extended (rest.dropWhile isBlank)
      pure (some last, rest)
    | _, rest => pure (none, rest)
  let rest := rest.dropWhile isBlank
  let negated := rest.head? = some '!'
  let rest := if negated then (rest.drop 1).dropWhile isBlank else rest
  if negated && rest.head? = some '!' then
    throw ⟨"multiple " ++ backQuoted "!" ++ "s", rest.drop 1⟩
  match first, last with
  | some (.line 0), some (.address (.fits ..)) =>
    return ({ first := first, last := last, fromStart := true, negated := negated }, rest)
  | some (.line 0), _ => .error ⟨"invalid usage of line address 0", rest.drop 1⟩
  | _, _ => return ({ first := first, last := last, negated := negated }, rest)

def readFlags (budget : Nat) (s : Substitution) (cs : List Char) :
    Except ScriptFault (Substitution × List Char) :=
  match budget, cs with
  | n + 1, 'g' :: rest => readFlags n { s with global := true } rest
  | n + 1, 'p' :: rest => readFlags n { s with tells := true } rest
  | n + 1, 'i' :: rest | n + 1, 'I' :: rest => readFlags n { s with folded := true } rest
  | n + 1, 'm' :: rest | n + 1, 'M' :: rest | n + 1, 'e' :: rest => readFlags n s rest
  | _, 'w' :: rest =>
    let name := (rest.dropWhile isBlank).takeWhile (· ≠ '\n')
    .ok ({ s with file := some (String.ofList name) }, rest.dropWhile (· ≠ '\n'))
  | n + 1, c :: rest =>
    if c.isDigit then
      match readNumber (c :: rest) with
      | (some 0, rest) =>
        .error ⟨"number option to " ++ backQuoted "s" ++ " command may not be zero", rest⟩
      | (k, rest) => readFlags n { s with nth := k.getD 1 } rest
    else if c = ' ' then readFlags n s rest
    else if "\n;\x7d#\t\x0d".toList.contains c then .ok (s, c :: rest)
    else .error ⟨"unknown option to " ++ backQuoted "s", rest⟩
  | _, rest => .ok (s, rest)

def readSubstitution (cs : List Char) : Except ScriptFault (Action × List Char) :=
  let unterminated := "unterminated " ++ backQuoted "s" ++ " command"
  match cs with
  | [] => .error ⟨unterminated, []⟩
  | d :: rest => match delimited d false true rest with
    | none => .error ⟨unterminated, []⟩
    | some (pattern, rest) => match delimited d false false rest with
      | none => .error ⟨unterminated, []⟩
      | some (template, rest) => do
        let (s, rest) ← readFlags (rest.length + 1)
          ⟨none, false, readPieces template, false, 1, false, none⟩ rest
        let left := rest.drop 1
        let e ← readExpression extended pattern left
        let needed := neededGroups s.pieces
        match e with
        | some e =>
          if groupCount e < needed then
            .error ⟨"invalid reference \\" ++ toString needed ++ " on " ++ backQuoted "s" ++
              " command's RHS", left⟩
          else return (.substitute { s with expression := some e }, rest)
        | none => return (.substitute s, rest)

def unescaped : List Char → List Char
  | '\\' :: 'n' :: rest => '\n' :: unescaped rest
  | '\\' :: c :: rest => c :: unescaped rest
  | c :: rest => c :: unescaped rest
  | [] => []

def readTransliteration (cs : List Char) : Except ScriptFault (Action × List Char) :=
  let unterminated := "unterminated " ++ backQuoted "y" ++ " command"
  match cs with
  | [] => .error ⟨unterminated, []⟩
  | d :: rest => match delimited d false false rest with
    | none => .error ⟨unterminated, []⟩
    | some (a, rest) => match delimited d false false rest with
      | none => .error ⟨unterminated, []⟩
      | some (b, rest) =>
        let a := unescaped a
        let b := unescaped b
        if a.length ≠ b.length then
          .error ⟨"strings for " ++ backQuoted "y" ++ " command are different lengths", rest⟩
        else .ok (.transliterate (a.zip b), rest)

/-- The text of a command, up to a line feed without a backslash. -/
def commandText : List Char → List Char × List Char
  | [] => ([], [])
  | ['\\'] => ([], [])
  | '\\' :: c :: rest =>
    let (more, rest) := commandText rest
    (c :: more, rest)
  | '\n' :: rest => ([], rest)
  | c :: rest =>
    let (more, rest) := commandText rest
    (c :: more, rest)

def readText (make : List Char → Action) (cs : List Char) :
    Except ScriptFault (Action × List Char) :=
  let cs := cs.dropWhile isBlank
  let cs := match cs with
    | '\\' :: rest => match rest.dropWhile isBlank with
      | '\n' :: rest => rest
      | rest => rest
    | cs => cs
  if cs.isEmpty then
    .error ⟨"expected \\ after " ++ backQuoted "a" ++ ", " ++ backQuoted "c" ++ " or " ++
      backQuoted "i", []⟩
  else
    let (text, rest) := commandText cs
    .ok (make (text ++ ['\n']), rest)

def readName (cs : List Char) : String × List Char :=
  let cs := cs.dropWhile isBlank
  let name := cs.takeWhile (· ≠ '\n')
  (String.ofList name, cs.drop name.length)

def readLabel (cs : List Char) : String × List Char :=
  let cs := cs.dropWhile isBlank
  let name := cs.takeWhile fun c => c ≠ '\n' && c ≠ ';' && c ≠ '\x7d' && !isBlank c
  (String.ofList name, cs.drop name.length)

/-- What may follow a command. -/
def ended (action : Action) (cs : List Char) : Except ScriptFault (Action × List Char) :=
  match cs.dropWhile isBlank with
  | [] => .ok (action, [])
  | ';' :: rest | '\n' :: rest => .ok (action, rest)
  | '\x7d' :: rest => .ok (action, '\x7d' :: rest)
  | '#' :: rest => .ok (action, '#' :: rest)
  | rest => .error ⟨"extra characters after command", rest.drop 1⟩

def readAction (c : Char) (rest : List Char) : Except ScriptFault (Action × List Char) := do
  match c with
  | 's' =>
    let (a, rest) ← readSubstitution extended rest
    ended a rest
  | 'y' =>
    let (a, rest) ← readTransliteration rest
    ended a rest
  | 'a' => readText .append rest
  | 'i' => readText .insert rest
  | 'c' => readText .change rest
  | 'p' => ended (.tell false) rest
  | 'P' => ended (.tell true) rest
  | 'd' => ended (.delete false) rest
  | 'D' => ended (.delete true) rest
  | 'n' => ended (.next false) rest
  | 'N' => ended (.next true) rest
  | 'h' => ended (.hold false) rest
  | 'H' => ended (.hold true) rest
  | 'g' => ended (.get false) rest
  | 'G' => ended (.get true) rest
  | 'x' => ended .exchange rest
  | '=' => ended .number rest
  | 'l' => ended .list (readNumber (rest.dropWhile isBlank)).2
  | 'z' => ended .clear rest
  | 'q' | 'Q' =>
    let (n, rest) := readNumber (rest.dropWhile isBlank)
    ended (.quit (n.getD 0) (c = 'Q')) rest
  | 'b' | 't' | 'T' =>
    let (label, rest) := readLabel rest
    ended (.branch (if c = 'b' then none else some (c = 't')) label) rest
  | ':' =>
    let (label, rest) := readLabel rest
    if label.isEmpty then .error ⟨"\":\" lacks a label", []⟩ else ended (.label label) rest
  | 'r' =>
    let (name, rest) := readName rest
    if name.isEmpty then .error ⟨"missing filename in r/R/w/W commands", []⟩
    else return (.readFile name, rest)
  | 'w' | 'W' =>
    let (name, rest) := readName rest
    if name.isEmpty then .error ⟨"missing filename in r/R/w/W commands", []⟩
    else return (.writeFile (c = 'W') name, rest)
  | _ => .error ⟨"unknown command: " ++ backQuoted c.toString, rest⟩

def readSteps (budget : Nat) (script : Script) (cs : List Char) :
    Except ScriptFault Script :=
  match budget with
  | 0 => .ok script
  | n + 1 =>
    let cs := cs.dropWhile fun c => isBlank c || c = '\n' || c = ';'
    match cs with
    | [] => .ok script
    | '#' :: rest => readSteps n script (rest.dropWhile (· ≠ '\n'))
    | '\x7d' :: rest => match script.opened with
      | [] => .error ⟨"unexpected " ++ backQuoted "\x7d", rest⟩
      | start :: opened =>
        let steps := match script.steps[start]? with
          | some step => script.steps.setIfInBounds start
              { step with action := .block script.steps.size }
          | none => script.steps
        match ended .nothing rest with
        | .error fault => .error fault
        | .ok (_, rest) => readSteps n { steps := steps, opened := opened } rest
    | cs => match readRange extended cs with
      | .error fault => .error fault
      | .ok (range, rest) => match rest with
        | [] => .error ⟨"missing command", []⟩
        | '\x7b' :: rest =>
          readSteps n
            { steps := script.steps.push ⟨range, .block 0⟩
              opened := script.steps.size :: script.opened } rest
        | c :: rest => match readAction extended c rest with
          | .error fault => .error fault
          | .ok (action, rest) =>
            readSteps n { script with steps := script.steps.push ⟨range, action⟩ } rest

/-- The steps of a script, or a fault and the place in the text at which it was found. -/
def readScript (text : List Char) : Except (String × Nat) (Array Step) :=
  match readSteps extended (text.length + 1) {} text with
  | .error fault => .error (fault.text, text.length - fault.left.length)
  | .ok script =>
    if script.opened.isEmpty then .ok script.steps
    else .error ("unmatched " ++ backQuoted "\x7b", 0)

end

/-- The text that a place lies in, of texts that stand on lines of their own, and the place in it.
-/
def placeAmong (number place : Nat) : List String → Nat × Nat
  | [] => (number, place)
  | t :: rest =>
    if place ≤ t.utf8ByteSize || rest.isEmpty then (number, place)
    else placeAmong (number + 1) (place - t.utf8ByteSize - 1) rest

/-! ### Editing -/

inductive Going
  | upTo (line : Nat)
  | seeking (a : Address)

structure Editor where
  space : List Char := []
  /-- Whether the line at hand has a line feed, and whether what is held has one. -/
  ended : Bool := true
  heldEnded : Bool := true
  held : List Char := []
  number : Nat := 0
  input : List Bytes
  output : Array UInt8 := #[]
  /-- Whether the output's last line lacks its line feed. -/
  isOpen : Bool := false
  written : List (String × Bytes) := []
  /-- What comes after the line at hand. -/
  appended : List Bytes := []
  going : List (Nat × Going) := []
  substituted : Bool := false
  lastExpression : Option Expression := none
  status : Nat := 0

inductive Outcome
  | onward (place : Nat)
  | cycle (tells : Bool)
  /-- A new cycle with what is left of the line. -/
  | again
  | stop (tells : Bool)

namespace Editor

def emit (e : Editor) (bytes : Bytes) (ended : Bool) : Editor :=
  let before : Bytes := if e.isOpen then [10] else []
  { e with output := e.output ++ (before ++ bytes), isOpen := !ended }

def emitLine (e : Editor) (line : List Char) : Editor :=
  e.emit (Bytes.ofChars line ++ (if e.ended then [10] else [])) e.ended

def flush (e : Editor) : Editor :=
  e.appended.foldl
    (fun e bytes => e.emit bytes (bytes.getLast? = some 10 || bytes.isEmpty))
    { e with appended := [] }

def isLast (e : Editor) : Bool := e.input.isEmpty

def read? (e : Editor) : Option (List Char × Editor) :=
  match e.input with
  | [] => none
  | line :: rest =>
    some (Bytes.chars (Bytes.body line),
      { e with
        input := rest
        number := e.number + 1
        ended := line.getLast? = some 10 })

def firstLine (e : Editor) : List Char := e.space.takeWhile (· ≠ '\n')

def expression? (e : Editor) (given : Option Expression) : Option Expression :=
  given.or e.lastExpression

def fitsAddress (e : Editor) : Address → Bool × Editor
  | .line n => (e.number = n, e)
  | .last => (e.isLast, e)
  | .every first step =>
    (if step = 0 then e.number = first
      else first ≤ e.number && (e.number - first) % step = 0, e)
  | .fits given folded => match e.expression? given with
    | none => (false, e)
    | some r => (Expression.occurs e.space.toArray folded r, { e with lastExpression := some r })

def start (e : Editor) (place : Nat) (g : Going) : Editor :=
  { e with going := (place, g) :: e.going.filter (·.1 ≠ place) }

def finish (e : Editor) (place : Nat) : Editor :=
  { e with going := e.going.filter (·.1 ≠ place) }

def isInRange (e : Editor) (place : Nat) (r : Range) : Bool × Editor :=
  match r.first, r.last with
  | none, _ => (true, e)
  | some a, none => e.fitsAddress a
  | some a, some last =>
    let active := match e.going.lookup place with
      | some g => some g
      | none => if r.fromStart && e.number = 1 then
          match last with
          | .address b => some (.seeking b)
          | _ => none
        else none
    match active with
    | some (.upTo n) =>
      if e.number < n then (true, e)
      else if e.number = n then (true, e.finish place)
      else
        let e := e.finish place
        e.fitsAddress a
    | some (.seeking b) =>
      let (found, e) := e.fitsAddress b
      (true, if found then e.finish place else e.start place (.seeking b))
    | none =>
      let (begun, e) := e.fitsAddress a
      if !begun then (false, e)
      else match last with
        | .lines n => (true, if n = 0 then e else e.start place (.upTo (e.number + n)))
        | .multiple n =>
          let stop := if n = 0 then e.number else (e.number + n - 1) / n * n
          (true, if stop ≤ e.number then e else e.start place (.upTo stop))
        | .address (.line n) => (true, if n ≤ e.number then e else e.start place (.upTo n))
        | .address .last => (true, if e.isLast then e else e.start place (.seeking .last))
        | .address b => (true, e.start place (.seeking b))

/-! #### Substitutions -/

def fill (text : Array Char) (m : Expression.Match) (pieces : List Piece)
    (lasting once : Option Case) : List Char :=
  match pieces with
  | [] => []
  | .change c true :: rest => fill text m rest lasting c
  | .change c false :: rest => fill text m rest c none
  | .char c :: rest =>
    (shift (once.or lasting) [c]) ++ fill text m rest lasting none
  | .group index :: rest =>
    let cs := m.group text index
    let shown := match cs with
      | [] => []
      | c :: more => shift (once.or lasting) [c] ++ shift lasting more
    shown ++ fill text m rest lasting (if cs.isEmpty then once else none)
where
  shift (c : Option Case) (cs : List Char) : List Char :=
    match c with
    | none => cs
    | some .upper => cs.map Char.toUpper
    | some .lower => cs.map Char.toLower

/-- The text with its matches replaced from a place on, and whether any was. -/
def replace (s : Substitution) (r : Expression) (text : Array Char) (budget place : Nat)
    (count : Nat) (afterMatch : Bool) : List Char × Bool :=
  match budget with
  | 0 => ((text.extract place text.size).toList, false)
  | n + 1 => match Expression.findFrom text s.folded r place with
    | none => ((text.extract place text.size).toList, false)
    | some m =>
      let isEmpty := m.last = m.first
      let before := (text.extract place m.first).toList
      -- An empty match right after another match counts for nothing.
      if isEmpty && afterMatch && m.first = place then
        if m.first < text.size then
          let (more, found) := replace s r text n (place + 1) count false
          ((text.extract place (place + 1)).toList ++ more, found)
        else ([], false)
      else
        let matched := (text.extract m.first m.last).toList
        let wanted := s.nth ≤ count
        let put := if wanted then fill text m s.pieces none none else matched
        if wanted && !s.global then
          (before ++ put ++ (text.extract m.last text.size).toList, true)
        else if isEmpty then
          let next := (text.extract m.last (m.last + 1)).toList
          let (more, found) := if m.last < text.size then
              replace s r text n (m.last + 1) (count + 1) false
            else ([], false)
          (before ++ put ++ next ++ more, wanted || found)
        else
          let (more, found) := replace s r text n m.last (count + 1) true
          (before ++ put ++ more, wanted || found)

def write (e : Editor) (name : String) (line : List Char) : Editor :=
  if name = "/dev/stdout" then e.emit (Bytes.ofChars line ++ [10]) true
  else { e with written := e.written ++ [(name, Bytes.ofChars line ++ [10])] }

def substitute (e : Editor) (s : Substitution) : Editor :=
  match e.expression? s.expression with
  | none => e
  | some r =>
    let text := e.space.toArray
    let (space, found) := replace s r text (text.size * 2 + 2) 0 1 false
    let e := { e with lastExpression := some r }
    if !found then e
    else
      let e := { e with space := space, substituted := true }
      let e := if s.tells then e.emitLine e.space else e
      match s.file with
      | some name => e.write name e.space
      | none => e

def visible (cs : List Char) : List Char :=
  cs.flatMap fun c =>
    match [('\\', "\\\\"), ('\x07', "\\a"), ('\x08', "\\b"), ('\x0c', "\\f"), ('\n', "\\n"),
      ('\x0d', "\\r"), ('\t', "\\t"), ('\x0b', "\\v")].lookup c with
    | some text => text.toList
    | none =>
      if 32 ≤ c.toNat && c.toNat < 127 then [c]
      else
        let ds := Nat.toDigits 8 c.toNat
        '\\' :: (List.replicate (3 - ds.length) '0' ++ ds)

def broken (budget : Nat) (cs : List Char) : List Char :=
  match budget with
  | 0 => cs
  | n + 1 => if cs.length ≤ 69 then cs else cs.take 69 ++ '\\' :: '\n' :: broken n (cs.drop 69)

/-- Carries out one command; `quiet` says that lines are not told by themselves. -/
def act (e : Editor) (readFile : String → Option Bytes) (labels : List (String × Nat))
    (quiet : Bool) (place : Nat) : Action → Editor × Outcome
  | .block _ | .nothing | .label _ => (e, .onward (place + 1))
  | .substitute s => (e.substitute s, .onward (place + 1))
  | .transliterate pairs =>
    ({ e with space := e.space.map fun c => (pairs.lookup c).getD c }, .onward (place + 1))
  | .tell firstLine =>
    ((if firstLine then e.emit (Bytes.ofChars e.firstLine ++ [10]) true else e.emitLine e.space),
      .onward (place + 1))
  | .delete firstLine =>
    if firstLine && e.space.contains '\n' then
      ({ e with space := e.space.drop (e.firstLine.length + 1) }, .again)
    else (e, .cycle false)
  | .next append =>
    if e.isLast then (e, .stop (append || !quiet))
    else
      let e := if append || quiet then e else e.emitLine e.space
      match e.flush.read? with
      | none => (e, .stop true)
      | some (line, after) =>
        ({ after with space := if append then e.space ++ '\n' :: line else line },
          .onward (place + 1))
  | .hold append =>
    let held := if append then e.held ++ '\n' :: e.space else e.space
    ({ e with held := held, heldEnded := e.ended }, .onward (place + 1))
  | .get append =>
    let space := if append then e.space ++ '\n' :: e.held else e.held
    ({ e with space := space, ended := e.heldEnded }, .onward (place + 1))
  | .exchange =>
    ({ e with space := e.held, held := e.space, ended := e.heldEnded, heldEnded := e.ended },
      .onward (place + 1))
  | .number => (e.emit (Bytes.ofText (toString e.number ++ "\n")) true, .onward (place + 1))
  | .list =>
    let cs := broken (e.space.length * 4 + 1) (visible e.space)
    (e.emit (Bytes.ofChars (cs ++ ['$', '\n'])) true, .onward (place + 1))
  | .quit status silent => ({ e with status := status }, .stop !silent)
  | .append text =>
    ({ e with appended := e.appended ++ [Bytes.ofChars text] }, .onward (place + 1))
  | .insert text => (e.emit (Bytes.ofChars text) true, .onward (place + 1))
  | .change text =>
    let inside := (e.going.lookup place).isSome
    ((if inside then e else e.emit (Bytes.ofChars text) true), .cycle false)
  | .branch after label =>
    let goes := match after with
      | none => true
      | some wanted => e.substituted = wanted
    let e := if after.isSome then { e with substituted := false } else e
    if !goes then (e, .onward (place + 1))
    else if label.isEmpty then (e, .cycle true)
    else (e, .onward ((labels.lookup label).getD 0))
  | .readFile name => match readFile name with
    | some bytes => ({ e with appended := e.appended ++ [bytes] }, .onward (place + 1))
    | none => (e, .onward (place + 1))
  | .writeFile firstLine name =>
    (e.write name (if firstLine then e.firstLine else e.space), .onward (place + 1))
  | .clear => ({ e with space := [] }, .onward (place + 1))

section
variable (steps : Array Step) (readFile : String → Option Bytes) (labels : List (String × Nat))
  (quiet : Bool)

def run (budget : Nat) (place : Nat) (e : Editor) : Editor × Outcome × Nat :=
  match budget with
  | 0 => (e, .stop false, 0)
  | n + 1 => match steps[place]? with
    | none => (e, .cycle true, n)
    | some step =>
      let (inRange, e) := e.isInRange place step.range
      if inRange = step.range.negated then
        match step.action with
        | .block stop => run n stop e
        | _ => run n (place + 1) e
      else match e.act readFile labels quiet place step.action with
        | (e, .onward place) => run n place e
        | (e, outcome) => (e, outcome, n)

def cycles (rounds : Nat) (budget : Nat) (fresh : Bool) (e : Editor) : Editor :=
  match rounds with
  | 0 => e
  | k + 1 =>
    let begun := if fresh then e.read?.map fun r => { r.2 with space := r.1, substituted := false }
      else some e
    match begun with
    | none => e
    | some e =>
      let close (e : Editor) (tells : Bool) : Editor :=
        (if tells && !quiet then e.emitLine e.space else e).flush
      match run steps readFile labels quiet budget 0 e with
      | (e, .cycle tells, budget) => cycles k budget true (close e tells)
      | (e, .again, budget) => cycles k budget false e.flush
      | (e, .stop tells, _) => close e tells
      | (e, .onward _, _) => e
end
end Editor

/-- How many commands may be carried out in all. -/
def commandBudget : Nat := 2000000

def labelsOf (steps : Array Step) : List (String × Nat) :=
  (steps.toList.zip (List.range steps.size)).filterMap fun (step, k) => match step.action with
    | .label name => some (name, k)
    | _ => none

def missingLabel? (steps : Array Step) : Option String :=
  steps.toList.findSome? fun step => match step.action with
    | .branch _ label =>
      if label.isEmpty || ((labelsOf steps).lookup label).isSome then none else some label
    | _ => none

def edit (steps : Array Step) (quiet : Bool) (lines : List Bytes) (s : State) : Editor × State :=
  let readFile (name : String) : Option Bytes := (source name s).1.toOption
  let e := Editor.cycles steps readFile (labelsOf steps) quiet (lines.length * 50 + 100)
    commandBudget true { input := lines }
  let names := (steps.toList.filterMap fun step => match step.action with
    | .writeFile _ name => some name
    | .substitute sub => sub.file
    | _ => none).filter (· ≠ "/dev/stdout")
  let s := names.foldl (fun s name =>
    let bytes := e.written.flatMap fun w => if w.1 = name then w.2 else []
    match store name false bytes s with
    | .ok s => s
    | .error fault => complain ("couldn't open file " ++ name ++ ": " ++ faultText fault) 4 s) s
  (e, s)

def editInPlace (steps : Array Step) (quiet : Bool) (ending : String) (names : List String)
    (s : State) : State :=
  eachOperand names (fun name s => match source name s with
    | (.error .isFolder, s) => complain ("couldn't edit " ++ name ++ ": not a regular file") 4 s
    | (.error e, s) => complain ("can't read " ++ name ++ ": " ++ faultText e) 2 s
    | (.ok content, s) =>
      let s := if ending.isEmpty then s
        else match store (name ++ ending) false content s with
          | .ok s => s
          | .error _ => s
      let (e, s) := edit steps quiet (Bytes.lines content) s
      match store name false e.output.toList s with
      | .ok s => if e.status = 0 then s else s.withStatus e.status
      | .error fault => complain ("couldn't open file " ++ name ++ ": " ++ faultText fault) 4 s) s

end Sed

open Sed in
def sed : Tool :=
  { rules := some {
      plain := "nErsuzi", valued := "efIl"
      long := [("quiet", 'n'), ("silent", 'n'), ("regexp-extended", 'E'), ("expression", 'e'),
        ("file", 'f'), ("in-place", 'i'), ("separate", 's'), ("null-data", 'z')] }
    prepare := fun arguments => arguments.map fun a =>
      -- An ending for copies is part of the option's own argument.
      if a.startsWith "-i" && a.length > 2 then "-I" ++ String.ofList (a.toList.drop 2)
      else if a.startsWith "--in-place=" then "-I" ++ String.ofList (a.toList.drop 11)
      else a
    run := fun options s =>
      let fromFile (name : String) : Except IoError String :=
        (source name s).1.map fun content => String.ofList (Text.decodeBytes (Bytes.body content))
      let missing? := options.given.findSome? fun g =>
        if g.1 ≠ 'f' then none
        else match fromFile g.2 with
          | .ok _ => none
          | .error e => some (g.2 ++ ": " ++ faultText e)
      let given := options.given.filterMap fun g =>
        if g.1 = 'e' then some g.2 else if g.1 = 'f' then (fromFile g.2).toOption else none
      let (texts, names) := if given.isEmpty then (options.operands.take 1, options.operands.drop 1)
        else (given, options.operands)
      let inPlace := options.has 'i' || options.has 'I'
      if let some text := missing? then complain ("couldn't open file " ++ text) 4 s
      else if texts.isEmpty then
        (s.say 2 ("Usage: " ++ ownName s ++
          " [OPTION]... \x7bscript-only-if-no-other-script\x7d [input-file]...\n")).withStatus 1
      else
        let text := Bytes.chars (Bytes.ofText (String.intercalate "\n" texts))
        match readScript (options.has 'E' || options.has 'r') text with
        | .error (fault, place) =>
          let (number, place) := placeAmong 1 place texts
          complain ("-e expression #" ++ toString number ++ ", char " ++ toString place ++ ": " ++
            fault) 1 s
        | .ok steps => match missingLabel? steps with
          | some label => complain ("can't find label for jump to " ++ backQuoted label) 1 s
          | none =>
            let quiet := options.has 'n' || text.take 3 = ['#', 'n', '\n'] || text = ['#', 'n']
            if inPlace then
              if names.isEmpty then complain "no input files" 1 s
              else editInPlace steps quiet ((options.value? 'I').getD "") names s
            else
              let (contents, s) := (if names.isEmpty then ["-"] else names).foldl
                (fun (r : List Bytes × State) name => match source name r.2 with
                  | (.ok content, s) => (r.1 ++ [content], s)
                  | (.error .isFolder, s) => (r.1, complain ("couldn't edit " ++ name ++
                      ": not a regular file") 2 s)
                  | (.error e, s) => (r.1, complain ("can't read " ++ name ++ ": " ++ faultText e) 2
                      s))
                ([], s)
              let joined (contents : List Bytes) : Bytes :=
                ((contents.dropLast.map fun c => if c.isEmpty then c else Bytes.ended c) ++
                  contents.getLast?.toList).flatten
              let parts := if options.has 's' then contents else [joined contents]
              let (outputs, status, s) := parts.foldl
                (fun (outputs, _, s) part =>
                  let (e, s) := edit steps quiet (Bytes.lines part) s
                  (outputs ++ [e.output.toList], e.status, s))
                (([] : List Bytes), 0, s)
              let s := Tools.emitOr 4 (joined outputs) s
              if status = 0 then s else s.withStatus status }

end BuildPipeline.Shell.Tools
