import BuildPipeline.Shell.Expression
import BuildPipeline.Shell.Tools.Listing

/-!
The program that searches lines for what expressions match.
-/
namespace BuildPipeline.Shell.Tools

structure Sought where
  expressions : List Expression
  folded : Bool
  /-- Whether a match has to be a whole word or a whole line. -/
  words : Bool
  lines : Bool
  inverted : Bool

namespace Sought

/-- A text that stands for itself. -/
def literal (cs : List Char) : Expression := .sequence (cs.map fun c => .one (.char c))

def accepts (q : Sought) (text : Array Char) (m : Expression.Match) : Bool :=
  let before := if m.first = 0 then none else text[m.first - 1]?
  (!q.lines || (m.first = 0 && m.last = text.size)) &&
    (!q.words || !(Expression.isWordChar before || Expression.isWordChar text[m.last]?))

/-- The matches of an expression at a place that are accepted; the longest comes first. -/
def matchesAt (q : Sought) (text : Array Char) (place : Nat) (e : Expression) :
    List Expression.Match :=
  let hits := Expression.ends text q.folded e ⟨place, []⟩
  (hits.map fun h => (⟨place, h.place, h.groups⟩ : Expression.Match)).filter (q.accepts text)

/-- The longest accepted match at a place. -/
def matchAt (q : Sought) (text : Array Char) (place : Nat) : Option Expression.Match :=
  (q.expressions.flatMap (q.matchesAt text place)).foldl
    (fun best m => match best with
      | some b => if b.last < m.last then some m else some b
      | none => some m)
    none

def findFrom (q : Sought) (text : Array Char) (place : Nat) : Option Expression.Match :=
  (List.range (text.size + 1 - place)).findSome? fun k => q.matchAt text (place + k)

def wants (q : Sought) (line : Bytes) : Bool :=
  (q.findFrom (Bytes.chars line).toArray 0).isSome != q.inverted

/-- The matches in a line one after another, empty ones left out. -/
def pieces (q : Sought) (text : Array Char) (budget place : Nat) : List Bytes :=
  match budget with
  | 0 => []
  | n + 1 => match q.findFrom text place with
    | none => []
    | some m =>
      if m.last = m.first then pieces q text n (m.first + 1)
      else Bytes.ofChars (text.extract m.first m.last).toList :: pieces q text n m.last

end Sought

/-- A line of a file with its number, and whether it was sought. -/
structure FoundLine where
  number : Nat
  body : Bytes
  isHit : Bool

def withContext (before after : Nat) (lines : List FoundLine) : List FoundLine :=
  let hits := lines.filterMap fun l => if l.isHit then some l.number else none
  lines.filter fun l => hits.any fun h => h ≤ l.number + before && l.number ≤ h + after

structure Shown where
  label : Option String
  numbered : Bool
  onlyPieces : Bool
  context : Option (Nat × Nat)

def Shown.row (q : Sought) (o : Shown) (l : FoundLine) : Bytes :=
  let mark := if l.isHit then ":" else "-"
  let front := ((o.label.map (· ++ mark)).getD "") ++
    (if o.numbered then toString l.number ++ mark else "")
  if o.onlyPieces then
    if q.inverted || !l.isHit then []
    else
      (q.pieces (Bytes.chars l.body).toArray (l.body.length + 1) 0).flatMap fun p =>
        Bytes.ofText front ++ p ++ [10]
  else Bytes.ofText front ++ l.body ++ [10]

/-- Rows, with a line between groups that do not follow each other. -/
def Shown.rows (q : Sought) (o : Shown) (lines : List FoundLine) : Bytes :=
  match o.context with
  | none => lines.flatMap (o.row q)
  | some (before, after) =>
    let shown := withContext before after lines
    let groups := shown.splitBy fun a b => b.number = a.number + 1
    List.intercalate (Bytes.ofText "--\n") (groups.map fun g => g.flatMap (o.row q))

def grepRules : OptionRules :=
  { plain := "EFGPivwxclLnoqshHrRazbUZT", valued := "efmABCdD1"
    long := [("extended-regexp", 'E'), ("fixed-strings", 'F'), ("basic-regexp", 'G'),
      ("ignore-case", 'i'), ("invert-match", 'v'), ("word-regexp", 'w'), ("line-regexp", 'x'),
      ("count", 'c'), ("files-with-matches", 'l'), ("files-without-match", 'L'),
      ("line-number", 'n'), ("only-matching", 'o'), ("quiet", 'q'), ("silent", 'q'),
      ("no-messages", 's'), ("no-filename", 'h'), ("with-filename", 'H'), ("recursive", 'r'),
      ("regexp", 'e'), ("file", 'f'), ("max-count", 'm'), ("after-context", 'A'),
      ("before-context", 'B'), ("context", 'C'), ("text", 'a'), ("include", '1')] }

/-- A number of lines around hits as an option of its own. -/
def spellContext (arguments : List String) : List String :=
  arguments.map fun a => match a.toList with
    | '-' :: d :: rest =>
      if d.isDigit && rest.all Char.isDigit then "-C" ++ String.ofList (d :: rest) else a
    | _ => a

/-- The files that are searched: those below folders too, if that is wanted. -/
def searchedFiles (options : Options) (names : List String) (s : State) : List String :=
  if !(options.has 'r' || options.has 'R') then (if names.isEmpty then ["-"] else names)
  else
    let fits (p : String) : Bool := match options.value? '1' with
      | some pattern => Search.fits false pattern (baseOf p)
      | none => true
    (if names.isEmpty then ["."] else names).flatMap fun p => match s.files.stat ⟨p⟩ with
      | .ok (.folder entries) =>
        (Node.descendants [] (.folder entries)).filterMap fun e =>
          let below := (Path.ofNames e.1).text
          let path := if names.isEmpty then below
            else (if p.endsWith "/" then p else p ++ "/") ++ below
          if e.2.isFile && fits path then some path else none
      | _ => [p]

def wrongUse (s : State) : State :=
  (s.say 2 ("Usage: " ++ ownName s ++ " [OPTION]... PATTERNS [FILE]...\nTry '" ++ ownName s ++
    " --help' for more information.\n")).withStatus 2

/-- The texts of patterns, and the operands that are files. -/
def patternTexts (options : Options) (s : State) : Option (List String × List String) :=
  let given := options.given.flatMap fun g =>
    if g.1 = 'e' then g.2.splitOn "\n"
    else if g.1 = 'f' then
      match (source g.2 s).1 with
      | .ok content => (Bytes.lines content).map fun l =>
          String.ofList (Text.decodeBytes (Bytes.body l))
      | .error _ => []
    else []
  if options.has 'e' || options.has 'f' then some (given, options.operands)
  else match options.operands with
    | [] => none
    | pattern :: names => some (pattern.splitOn "\n", names)

def searchFile (options : Options) (q : Sought) (labelled : Bool) (name : String)
    (content : Bytes) (s : State) : State :=
  let shownName := if name = "-" then "(standard input)" else name
  let numbered := ((Bytes.lines content).zip (List.range' 1 (content.count 10 + 1))).map
    fun (l, n) => (⟨n, Bytes.body l, q.wants (Bytes.body l)⟩ : FoundLine)
  let number (c : Char) : Option Nat := (options.value? c).bind String.toNat?
  let most := (number 'm').getD numbered.length
  let lastHit := ((numbered.filter (·.isHit)).take most).getLast?
  let numbered := if (numbered.filter (·.isHit)).length ≤ most then numbered
    else numbered.filter fun l => lastHit.any fun h => l.number ≤ h.number
  let hits := numbered.filter (·.isHit)
  let s := if hits.isEmpty = options.has 'L' && s.status = 1 then s.withStatus 0 else s
  let context := match number 'A', number 'B', number 'C' with
    | none, none, none => none
    | a, b, c => some (b.getD (c.getD 0), a.getD (c.getD 0))
  let shown : Shown := {
    label := if labelled then some shownName else none
    numbered := options.has 'n'
    onlyPieces := options.has 'o'
    context := context }
  if options.has 'q' then s
  else if options.has 'L' then (if hits.isEmpty then emitLines [shownName] s else s)
  else if options.has 'l' then (if hits.isEmpty then s else emitLines [shownName] s)
  else if options.has 'c' then
    emitLines [(if labelled then shownName ++ ":" else "") ++ toString hits.length] s
  else if content.contains 0 && !options.has 'a' then
    if hits.isEmpty then s
    else emitLines [ownName s ++ ": " ++ shownName ++ ": binary file matches"] s
  else emitOr 2 (shown.rows q (if context.isSome then numbered else hits)) s

/-- A searching program whose patterns are read in a given way if no option says otherwise. -/
def searching (otherwise : Char) : Tool :=
  { rules := some grepRules
    failure := 2
    prepare := spellContext
    run := fun options s =>
      match patternTexts options s with
      | none => wrongUse s
      | some (texts, names) =>
        let mode := (options.last? "EFGP").getD otherwise
        let read (text : String) : Except Expression.Fault Expression :=
          let cs := Bytes.chars (Bytes.ofText text)
          if mode = 'F' then .ok (Sought.literal cs) else Expression.read (mode ≠ 'G') cs
        match texts.mapM read with
        | .error fault => complain fault.message 2 s
        | .ok expressions =>
          let q : Sought := {
            expressions := expressions
            folded := options.has 'i'
            words := options.has 'w'
            lines := options.has 'x'
            inverted := options.has 'v' }
          let files := searchedFiles options names s
          let recursive := options.has 'r' || options.has 'R'
          let labelled := match options.last? "hH" with
            | some c => c = 'H'
            | none => 1 < files.length || 1 < names.length ||
                (recursive && !(names.length = 1 && files = names))
          let after := files.foldl
            (fun s name => match source name s with
              | (.ok content, s) => searchFile options q labelled name content s
              | (.error e, s) =>
                if options.has 's' then (if s.status = 0 then s else s.withStatus 2)
                else
                  let status := if options.has 'q' && s.status = 0 then 0 else 2
                  plainFault status name e s)
            (s.withStatus 1)
          after }

def grep : Tool := searching 'G'

def egrep : Tool := searching 'E'

def fgrep : Tool := searching 'F'

end BuildPipeline.Shell.Tools
