import BuildPipeline.Shell.Lexical
import BuildPipeline.SortedMap

/-!
Reading a command text. The readers are given a budget, which every call makes smaller; ten times
the length of the text is enough, since fewer calls than that in a row read nothing.
-/
namespace BuildPipeline.Shell
namespace Reader

section
-- The number of line feeds in the whole text, from which lines are told.
variable (total : Nat)
-- What stands for the name of a command.
variable (aliases : SortedMap String)

def lineAt (rest : List Char) : Nat := 1 + total - rest.count '\n'

def fail {α : Type} (rest : List Char) (fault : SyntaxFault) : Read (α × List Char) :=
  .error (lineAt total rest, fault)

def unexpected {α : Type} (rest : List Char) (expecting : Option String) : Read (α × List Char) :=
  fail total rest (.unexpected (tokenText rest) expecting)

def andThen (parts : List Part) : Read (Word × List Char) → Read (Word × List Char)
  | .ok (more, rest) => .ok (parts ++ more, rest)
  | .error e => .error e

def keyword (word : String) (cs : List Char) : Read (Unit × List Char) :=
  let cs := skipSpace cs
  if rawWord cs = word then .ok ((), cs.drop word.length)
  else unexpected total cs (some (inQuotes word))

def closing {α : Type} (a : α) (cs : List Char) : Read (α × List Char) :=
  match skipSpace cs with
  | ')' :: rest => .ok (a, rest)
  | rest => unexpected total rest (some (inQuotes ")"))

def skipLines (budget : Nat) (cs : List Char) : List Char :=
  match budget with
  | 0 => cs
  | n + 1 => match skipSpace cs with
    | '\n' :: rest => skipLines n rest
    | rest => rest

def endsList (cs : List Char) : Bool :=
  cs.isEmpty || cs.head? = some ')' || [';', ';'].isPrefixOf cs || closers.contains (rawWord cs)

/-- What aliases make of the front of a command; none of them is used again within its own text. -/
def expandAlias (budget : Nat) (used : List String) (cs : List Char) : List Char :=
  match budget with
  | 0 => cs
  | n + 1 =>
    let name := rawWord cs
    match aliases.get? name with
    | some text =>
      if used.contains name then cs
      else expandAlias n (name :: used) (text.toList ++ cs.drop name.length)
    | none => cs

mutual
def parts (budget : Nat) (e : Ending) (cs : List Char) : Read (Word × List Char) :=
  match budget with
  | 0 => unexpected total cs none
  | n + 1 =>
    match cs with
    | [] => match e.fault? with
      | none => .ok ([], [])
      | some fault => fail total [] fault
    | c :: rest =>
      if e.endsAt c then .ok ([], e.after (c :: rest))
      else if c = '\\' then
        match rest with
        | [] => andThen [.text e.quoted "\\"] (parts n e [])
        | '\n' :: rest => parts n e rest
        | d :: rest =>
          if e.isEscapable d then andThen [.text true d.toString] (parts n e rest)
          else andThen [.text true "\\"] (parts n e (d :: rest))
      else if c = '\'' && !e.quoted then
        let inner := rest.takeWhile (· ≠ '\'')
        match rest.drop inner.length with
        | [] => fail total (c :: rest) .unterminatedQuote
        | _ :: rest => andThen [.text true (String.ofList inner)] (parts n e rest)
      else if c = '"' && e.knowsQuotes then
        match parts n .quote rest with
        | .ok (inner, rest) => andThen (marked inner) (parts n e rest)
        | .error fault => .error fault
      else if c = '$' then
        match dollar n e.quoted rest with
        | .ok (part, rest) => andThen [part] (parts n e rest)
        | .error fault => .error fault
      else if c = backQuote then
        match backQuoted rest with
        | none => fail total (c :: rest) .unterminatedBackQuote
        | some (inner, rest) => match list n inner with
          | .ok (command, _) => andThen [.output e.quoted command] (parts n e rest)
          | .error fault => .error fault
      else
        let plain := (c :: rest).takeWhile e.isPlain
        if plain.isEmpty then andThen [.text e.quoted c.toString] (parts n e rest)
        else
          andThen [.text e.quoted (String.ofList plain)]
            (parts n e ((c :: rest).drop plain.length))
where
  /-- What stands between double quotes makes a field, unless it is the list of arguments. -/
  marked (inner : Word) : Word :=
    match inner with
    | [.parameter true "@" .value] => inner
    | _ => .text true "" :: inner

def dollar (budget : Nat) (quoted : Bool) (cs : List Char) : Read (Part × List Char) :=
  match budget with
  | 0 => fail total cs .badSubstitution
  | n + 1 =>
    match cs with
    | '(' :: '(' :: rest => match calculationText 0 rest with
      | none => fail total [] .missingParentheses
      | some (inner, rest) => match parts n .all inner with
        | .ok (word, _) => .ok (.calculation quoted word, rest)
        | .error fault => .error fault
    | '(' :: rest => match list n rest with
      | .ok (command, rest) => closing total (.output quoted command) rest
      | .error fault => .error fault
    | '\x7b' :: rest => braced n quoted rest
    | c :: rest =>
      let name := if c.isDigit then [c] else parameterName (c :: rest)
      if name.isEmpty then .ok (.text quoted "$", c :: rest)
      else .ok (.parameter quoted (String.ofList name) .value, (c :: rest).drop name.length)
    | [] => .ok (.text quoted "$", [])

def braced (budget : Nat) (quoted : Bool) (cs : List Char) : Read (Part × List Char) :=
  match budget with
  | 0 => fail total cs .badSubstitution
  | n + 1 =>
    let measured := cs.head? = some '#' ∧ !(parameterName (cs.drop 1)).isEmpty ∧
      (cs.drop (1 + (parameterName (cs.drop 1)).length)).head? = some '\x7d'
    if measured then
      let name := parameterName (cs.drop 1)
      .ok (.parameter quoted (String.ofList name) .length, cs.drop (name.length + 2))
    else
      let name := parameterName cs
      let parameter := Part.parameter quoted (String.ofList name)
      if (cs.drop name.length).isEmpty then fail total [] .missingBrace
      else if name.isEmpty then fail total cs .badSubstitution
      else match cs.drop name.length with
        | '\x7d' :: rest => .ok (parameter .value, rest)
        | rest => match operation rest with
          | none => fail total rest .badSubstitution
          | some (use, rest) =>
            match parts n (.brace (quoted && !(use []).isPattern)) rest with
            | .ok (word, rest) => .ok (parameter (use word), rest)
            | .error fault => .error fault

def simple (budget : Nat) (line : Nat) (assignments : List (String × Word)) (words : List Word)
    (redirections : List Redirection) (cs : List Char) : Read (Command × List Char) :=
  match budget with
  | 0 => unexpected total cs none
  | n + 1 =>
    let cs := skipSpace cs
    match redirectionSign? cs with
    | some (descriptor, sign) =>
      match redirection n descriptor sign with
      | .ok (r, rest) => simple n line assignments words (redirections ++ [r]) rest
      | .error fault => .error fault
    | none =>
      if cs.head?.all isMeta then
        if words.isEmpty && assignments.isEmpty && redirections.isEmpty then
          unexpected total cs none
        else if cs.head? = some '(' then
          match words, assignments, redirections with
          | [name], [], [] => definition n name (cs.drop 1)
          | _, _, _ => unexpected total cs none
        else .ok (.simple line assignments words redirections, cs)
      else match parts n .word cs with
        | .error fault => .error fault
        | .ok (word, rest) => match (if words.isEmpty then assignment? word else none) with
          | some a => simple n line (assignments ++ [a]) words redirections rest
          | none => simple n line assignments (words ++ [word]) redirections rest

def definition (budget : Nat) (name : Word) (cs : List Char) : Read (Command × List Char) :=
  match budget with
  | 0 => unexpected total cs none
  | n + 1 => do
    let (_, rest) ← closing total () cs
    match plainText? name with
    | none => fail total rest .badFunctionName
    | some name =>
      if isName name && !specialNames.contains (String.ofList name) then
        let (body, rest) ← command n (skipLines n rest)
        return (.definition (String.ofList name) body, rest)
      else fail total rest .badFunctionName

/-- Lines to be read, from two signs and the delimiter on. -/
def here (budget : Nat) (descriptor : Nat) (tabs : Bool) (cs : List Char) :
    Read (Redirection × List Char) :=
  match budget with
  | 0 => unexpected total cs none
  | n + 1 =>
    let cs := skipSpace cs
    if cs.head?.all isMeta then unexpected total cs none
    else do
      let (word, rest) ← parts n .word cs
      let (delimiter, quoted) := literalText word
      let (text, rest) := hereText tabs delimiter rest
      if quoted then return (.here descriptor [.text true (String.ofList text)], rest)
      else
        let (word, _) ← parts n .all text
        return (.here descriptor word, rest)

def redirection (budget : Nat) (descriptor : Option Nat) (sign : List Char) :
    Read (Redirection × List Char) :=
  match budget with
  | 0 => unexpected total sign none
  | n + 1 =>
    match redirectionKind descriptor sign with
    | none => match sign with
      | '<' :: '<' :: '-' :: rest => here n (descriptor.getD 0) true rest
      | _ => here n (descriptor.getD 0) false (sign.drop 2)
    | some (make, rest) =>
      let rest := skipSpace rest
      if rest.head?.all isMeta then unexpected total rest none
      else match parts n .word rest with
        | .ok (word, rest) => .ok (make word, rest)
        | .error fault => .error fault

def redirections (budget : Nat) (line : Nat) (command : Command) (done : List Redirection)
    (cs : List Char) : Read (Command × List Char) :=
  match budget with
  | 0 => unexpected total cs none
  | n + 1 =>
    let cs := skipSpace cs
    match redirectionSign? cs with
    | some (descriptor, sign) =>
      match redirection n descriptor sign with
      | .ok (r, rest) => redirections n line command (done ++ [r]) rest
      | .error fault => .error fault
    | none =>
      .ok (if done.isEmpty then command else .redirected line command done, cs)

def branches (budget : Nat) (test : Command) (cs : List Char) : Read (Command × List Char) :=
  match budget with
  | 0 => unexpected total cs none
  | n + 1 => do
    let (_, rest) ← keyword total "then" cs
    let (yes, rest) ← commands n true rest
    let rest := skipSpace rest
    if rawWord rest = "elif" then
      let (next, rest) ← commands n true (rest.drop 4)
      let (no, rest) ← branches n next rest
      return (.conditional test yes no, rest)
    else if rawWord rest = "else" then
      let (no, rest) ← commands n true (rest.drop 4)
      let (_, rest) ← keyword total "fi" rest
      return (.conditional test yes no, rest)
    else
      let (_, rest) ← keyword total "fi" rest
      return (.conditional test yes .nothing, rest)

def body (budget : Nat) (cs : List Char) : Read (Command × List Char) :=
  match budget with
  | 0 => unexpected total cs none
  | n + 1 => do
    let (_, rest) ← keyword total "do" cs
    let (command, rest) ← commands n true rest
    let (_, rest) ← keyword total "done" rest
    return (command, rest)

def wordList (budget : Nat) (words : List Word) (cs : List Char) : Read (List Word × List Char) :=
  match budget with
  | 0 => unexpected total cs none
  | n + 1 =>
    let cs := skipSpace cs
    if cs.head?.all isMeta then .ok (words, cs)
    else match parts n .word cs with
      | .ok (word, rest) => wordList n (words ++ [word]) rest
      | .error fault => .error fault

/-- A loop over words, or over the arguments if there are none. -/
def each (budget : Nat) (line : Nat) (cs : List Char) : Read (Command × List Char) :=
  match budget with
  | 0 => unexpected total cs none
  | n + 1 => do
    let cs := skipSpace cs
    let name := rawWord cs
    let rest := skipLines n (cs.drop name.length)
    if !isName name.toList then fail total cs .badLoopVariable
    else if rawWord rest = "in" then
      let (words, rest) ← wordList n [] (rest.drop 2)
      match rest with
      | ';' :: rest | '\n' :: rest =>
        let (command, rest) ← body n (skipLines n rest)
        return (.each line name words command, rest)
      | rest => unexpected total rest none
    else
      let rest := match rest with
        | ';' :: rest => skipLines n rest
        | rest => rest
      let (command, rest) ← body n rest
      return (.each line name [[.parameter true "@" .value]] command, rest)

def patterns (budget : Nat) (done : List Word) (cs : List Char) : Read (List Word × List Char) :=
  match budget with
  | 0 => unexpected total cs none
  | n + 1 => do
    let cs := skipSpace cs
    if cs.isEmpty then unexpected total cs (some (inQuotes ")"))
    else if cs.head?.all isMeta then unexpected total cs none
    else
      let (word, rest) ← parts n .word cs
      match skipSpace rest with
      | '|' :: rest => patterns n (done ++ [word]) rest
      | rest => closing total (done ++ [word]) rest

def choices (budget : Nat) (done : List (List Word × Command)) (cs : List Char) :
    Read (List (List Word × Command) × List Char) :=
  match budget with
  | 0 => unexpected total cs none
  | n + 1 => do
    let cs := skipLines n cs
    if rawWord cs = "esac" then return (done, cs.drop 4)
    else
      let (tests, rest) ← patterns n [] (if cs.head? = some '(' then cs.drop 1 else cs)
      let (command, rest) ← list n rest
      let rest := skipLines n rest
      let done := done ++ [(tests, command)]
      match rest with
      | ';' :: ';' :: rest => choices n done rest
      | rest =>
        if rawWord rest = "esac" then return (done, rest.drop 4)
        else unexpected total rest (some (inQuotes ";;"))

def choice (budget : Nat) (line : Nat) (cs : List Char) : Read (Command × List Char) :=
  match budget with
  | 0 => unexpected total cs none
  | n + 1 => do
    let cs := skipSpace cs
    if cs.head?.all isMeta then unexpected total cs (some "word")
    else
      let (word, rest) ← parts n .word cs
      let (_, rest) ← keyword total "in" (skipLines n rest)
      let (branches, rest) ← choices n [] rest
      return (.choice line word branches, rest)

def command (budget : Nat) (cs : List Char) : Read (Command × List Char) :=
  match budget with
  | 0 => unexpected total cs none
  | n + 1 =>
    let cs := skipSpace (expandAlias aliases (aliases.entries.length + 1) [] (skipSpace cs))
    let line := lineAt total cs
    let compound (r : Read (Command × List Char)) : Read (Command × List Char) :=
      match r with
      | .ok (c, rest) => redirections n line c [] rest
      | .error fault => .error fault
    let word := rawWord cs
    let rest := cs.drop word.length
    if cs.head? = some '(' then
      compound do
        let (inner, rest) ← commands n true (cs.drop 1)
        closing total (.subshell inner) rest
    else if word = "\x7b" then
      compound do
        let (inner, rest) ← commands n true rest
        let (_, rest) ← keyword total "\x7d" rest
        return (inner, rest)
    else if word = "if" then
      compound do
        let (test, rest) ← commands n true rest
        branches n test rest
    else if word = "while" ∨ word = "until" then
      compound do
        let (test, rest) ← commands n true rest
        let (inner, rest) ← body n rest
        return (.loop (word = "while") test inner, rest)
    else if word = "for" then compound (each n line rest)
    else if word = "case" then compound (choice n line rest)
    else if keywords.contains word then unexpected total cs none
    else simple n line [] [] [] cs

def pipeline (budget : Nat) (done : List Command) (cs : List Char) : Read (Command × List Char) :=
  match budget with
  | 0 => unexpected total cs none
  | n + 1 =>
    match command n cs with
    | .error fault => .error fault
    | .ok (c, rest) => match skipSpace rest with
      | '|' :: '|' :: rest => .ok (finish (done ++ [c]), '|' :: '|' :: rest)
      | '|' :: rest => pipeline n (done ++ [c]) (rest.dropWhile fun c => c = '\n' || isSpace c)
      | rest => .ok (finish (done ++ [c]), rest)
where
  finish : List Command → Command
    | [c] => c
    | cs => .pipeline cs

/-- A pipeline that may be negated. -/
def term (budget : Nat) (cs : List Char) : Read (Command × List Char) :=
  match budget with
  | 0 => unexpected total cs none
  | n + 1 =>
    let cs := skipSpace cs
    if rawWord cs = "!" then
      match term n (cs.drop 1) with
      | .ok (c, rest) => .ok (.negated c, rest)
      | .error fault => .error fault
    else pipeline n [] cs

def terms (budget : Nat) (first : Option (Command → Command)) (cs : List Char) :
    Read (Command × List Char) :=
  match budget with
  | 0 => unexpected total cs none
  | n + 1 =>
    match term n cs with
    | .error fault => .error fault
    | .ok (c, rest) =>
      let c := match first with
        | some join => join c
        | none => c
      let next (rest : List Char) := rest.dropWhile fun c => c = '\n' || isSpace c
      match skipSpace rest with
      | '&' :: '&' :: rest => terms n (some (.both c)) (next rest)
      | '|' :: '|' :: rest => terms n (some (.either c)) (next rest)
      | rest => .ok (c, rest)

/-- Commands up to what closes them; there may be none. -/
def list (budget : Nat) (cs : List Char) : Read (Command × List Char) :=
  match budget with
  | 0 => unexpected total cs none
  | n + 1 =>
    let cs := skipLines n cs
    if endsList cs then .ok (.nothing, cs) else commands n true cs

/-- Commands: those of one line, or within a compound command those up to what closes it. -/
def commands (budget : Nat) (inner : Bool) (cs : List Char) : Read (Command × List Char) :=
  match budget with
  | 0 => unexpected total cs none
  | n + 1 =>
    let gap (cs : List Char) := if inner then skipLines n cs else skipSpace cs
    let ends (cs : List Char) : Bool :=
      if inner then endsList cs else cs.isEmpty || cs.head? = some '\n'
    let cs := gap cs
    if inner && cs.isEmpty then .ok (.nothing, cs)
    else match terms n none cs with
      | .error fault => .error fault
      | .ok (c, rest) =>
        let go (c : Command) (rest : List Char) : Read (Command × List Char) :=
          let rest := gap rest
          if ends rest then .ok (c, rest)
          else match commands n inner rest with
            | .ok (more, rest) => .ok (.sequence c more, rest)
            | .error fault => .error fault
        match skipSpace rest with
        | ';' :: ';' :: rest =>
          if inner then .ok (c, ';' :: ';' :: rest)
          else unexpected total (';' :: ';' :: rest) none
        | ';' :: rest => go c rest
        | '&' :: rest => go (.background c) rest
        | '\n' :: rest => if inner then go c rest else .ok (c, '\n' :: rest)
        | rest => .ok (c, rest)
end

def next (budget : Nat) (cs : List Char) : Reading :=
  match budget with
  | 0 => .done
  | n + 1 =>
    match skipSpace cs with
    | [] => .done
    | '\n' :: rest => next n rest
    | cs => match commands total aliases (cs.length * 10 + 40) false cs with
      | .error (line, fault) => .fault line fault
      | .ok (c, []) => .line c []
      | .ok (c, '\n' :: rest) => .line c rest
      | .ok (_, rest) => .fault (lineAt total rest) (.unexpected (tokenText rest) none)
end

end Reader
end BuildPipeline.Shell
