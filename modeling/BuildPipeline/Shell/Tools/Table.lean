import BuildPipeline.Shell.Builtins.Tests
import BuildPipeline.Shell.Tools.Calculation
import BuildPipeline.Shell.Tools.Coding
import BuildPipeline.Shell.Tools.Lines
import BuildPipeline.Shell.Tools.Listing
import BuildPipeline.Shell.Tools.Search
import BuildPipeline.Shell.Tools.Sed

/-!
Programs that print what they are told or let time pass, and the table of all programs.
-/
namespace BuildPipeline.Shell.Tools

/-! ### Variables -/

def variablePlace (name : String) : Nat :=
  let bytes := name.toUTF8.toList
  (bytes.foldl (fun n b => n + b.toNat) ((bytes.headD 0).toNat * 16)) % 39

/-- The variables that a program is given, in order. -/
def environment (s : State) : List (String × String) :=
  s.exported.mergeSort fun a b => variablePlace a.1 ≤ variablePlace b.1

def printenv : Tool :=
  { rules := some { plain := "0", mixed := false }
    run := fun options s =>
      match options.operands with
      | [] => emitLines ((environment s).map fun e => e.1 ++ "=" ++ e.2) s
      | names =>
        let values := names.filterMap fun n => (environment s).lookup n
        emitLines values (s.withStatus (if values.length = names.length then 0 else 1)) }

/-! ### Texts -/

/-- Options of the echoing program: whether a line feed is left out, and whether escapes count. -/
def echoOptions (quiet escapes : Bool) : List String → Bool × Bool × List String
  | a :: rest => match a.toList with
    | '-' :: c :: cs =>
      if (c :: cs).all fun c => c = 'n' || c = 'e' || c = 'E' then
        let last := ((c :: cs).filter (· ≠ 'n')).getLast?
        echoOptions (quiet || (c :: cs).contains 'n') ((last.map (· == 'e')).getD escapes) rest
      else (quiet, escapes, a :: rest)
    | _ => (quiet, escapes, a :: rest)
  | [] => (quiet, escapes, [])

def echo : Tool :=
  { run := fun options s =>
      let (quiet, escapes, words) := echoOptions false false options.operands
      let (bytes, stop) := if escapes then Printing.echoArguments words
        else (Bytes.ofText (String.intercalate " " words), false)
      emit (if quiet || stop then bytes else bytes ++ [10]) s }

def printf : Tool :=
  { run := fun options s =>
      let words := match options.operands with
        | "--" :: rest => rest
        | words => words
      match words with
      | [] => misused "missing operand" 1 s
      | format :: values =>
        let p := Printing.printf format values
        let s := p.complaints.foldl (fun s c => complain c 1 s) s
        emit p.bytes.toList s }

/-- A line again and again, as much of it as a reader takes in. -/
def yes : Tool :=
  { run := fun options s =>
      let words := options.operands
      let line := (if words.isEmpty then "y" else String.intercalate " " words) ++ "\n"
      let bytes := Bytes.ofText line
      match s.stream? 1 with
      | some (.pipe _) => emit (List.replicate (262144 / bytes.length + 1) bytes).flatten s
      | some _ => s.stall
      | none => complain "standard output: Bad file descriptor" 1 s }

/-! ### Time -/

/-- Milliseconds of a duration with a unit. -/
def duration? (text : String) : Option Nat :=
  let cs := text.toList
  let whole := cs.takeWhile Char.isDigit
  let rest := cs.drop whole.length
  let (places, rest) := match rest with
    | '.' :: more => (more.takeWhile Char.isDigit, more.dropWhile Char.isDigit)
    | rest => ([], rest)
  let unit := match rest with
    | [] | ['s'] => some 1
    | ['m'] => some 60
    | ['h'] => some 3600
    | ['d'] => some 86400
    | _ => none
  if whole.isEmpty && places.isEmpty then none
  else unit.map fun u =>
    (Printing.numberOf whole * 1000 +
      Printing.numberOf ((places ++ ['0', '0', '0']).take 3)) * u

def sleep : Tool := needing "operand" {} fun options s =>
  let isEndless (a : String) : Bool := a = "infinity" || a = "inf"
  let wrong := options.operands.filter fun a => !isEndless a && (duration? a).isNone
  if wrong.isEmpty then
    if options.operands.any isEndless then s.stall
    else s.wait ((options.operands.filterMap duration?).foldl (· + ·) 0)
  else
    misused (String.intercalate ("\n" ++ ownName s ++ ": ")
      (wrong.map fun a => "invalid time interval " ++ inQuotes a)) 1 s

/-! ### Blocks -/

def dd : Tool :=
  { run := fun options s =>
      let given (key : String) : Option String :=
        (options.operands.find? (·.startsWith (key ++ "="))).map fun a =>
          String.ofList (a.toList.drop (key.length + 1))
      let size (key : String) : Option Nat := (given key).bind size?
      let block := max 1 (((size "bs").or (size "ibs")).getD 512)
      let wanted := (size "count").map (· * block)
      let input := given "if"
      let fromZeros := input.any fun p => match s.files.stat ⟨p⟩ with
        | .ok (.device .zero) => true
        | _ => false
      let (content, s) : Except IoError Bytes × State := match fromZeros, wanted with
        | true, some n => (.ok (List.replicate n 0), s)
        | _, _ => source (input.getD "-") s
      match content with
      | .error e =>
        complain ("failed to open " ++ inQuotes (input.getD "") ++ ": " ++ faultText e) 1 s
      | .ok content =>
        let content := content.drop (((size "skip").getD 0) * block)
        let content := match wanted with
          | some n => content.take n
          | none => content
        let content := if given "conv" = some "ucase" then
            Bytes.ofChars ((Bytes.chars content).map Char.toUpper)
          else if given "conv" = some "lcase" then
            Bytes.ofChars ((Bytes.chars content).map Char.toLower)
          else content
        let blocks := toString (content.length / block) ++ "+" ++
          (if content.length % block = 0 then "0" else "1")
        let count := toString content.length ++ " bytes copied, 0 s, 0 kB/s\n"
        let records := blocks ++ " records in\n" ++ blocks ++ " records out\n"
        let s := match given "of" with
          | none => emit content s
          | some p => match store p false content s with
            | .ok s => s
            | .error e => complain ("failed to open " ++ inQuotes p ++ ": " ++ faultText e) 1 s
        match given "status" with
        | some "none" => s
        | some "noxfer" => s.say 2 records
        | _ => s.say 2 (records ++ count) }

/-! ### What the machine is -/

def constant (status : Nat) : Tool := { run := fun _ s => s.withStatus status }

def telling (text : String) : Tool :=
  { rules := some {}
    run := fun _ s => emitLines [text] s }

def uname : Tool :=
  { rules := some { plain := "asnrvmpio" }
    run := fun options s =>
      emitLines [if options.has 'm' && !options.has 's' then "x86_64" else "Linux"] s }

def identity : Tool :=
  { rules := some { plain := "ugGnrz" }
    run := fun options s =>
      let short := options.has 'u' || options.has 'g' || options.has 'G'
      emitLines [if !short then "uid=0(root) gid=0(root) groups=0(root)"
        else if options.has 'n' then "root" else "0"] s }

def tty : Tool :=
  { rules := some { plain := "s" }
    run := fun options s =>
      let s := s.withStatus 1
      if options.has 's' then s else emitLines ["not a tty"] s }

def pwd : Tool :=
  { rules := some { plain := "LP" }
    run := fun _ s => emitLines ["/" ++ (Path.ofNames s.files.workingFolder).text] s }

def testing (isBracket : Bool) : Tool :=
  { failure := 2
    run := fun options s =>
      let words := options.operands
      if isBracket && words.getLast? ≠ some "]" then complain "missing ']'" 2 s
      else
        let words := if isBracket then words.dropLast else words
        match Builtins.Tests.judge s (words.length + 1) words with
        | .ok holds => s.withStatus (if holds then 0 else 1)
        | .error fault => complain fault 2 s }

def table : List (String × Tool) :=
  [("basename", basename), ("base64", base64), ("cat", cat), ("chmod", chmod), ("cksum", cksum),
    ("cmp", cmp), ("comm", comm), ("cp", cp), ("cut", cut), ("dd", dd), ("dirname", dirname),
    ("echo", echo), ("egrep", egrep), ("expand", expand), ("expr", expr), ("false", constant 1),
    ("fgrep", fgrep), ("fold", fold), ("grep", grep), ("head", head), ("id", identity), ("ln", ln),
    ("ls", ls), ("mkdir", mkdir), ("mktemp", mktemp), ("mv", mv), ("nl", nl), ("od", od),
    ("paste", paste), ("printenv", printenv), ("printf", printf), ("pwd", pwd),
    ("readlink", readlink), ("realpath", realpath), ("rev", rev), ("rm", rm), ("rmdir", rmdir),
    ("sed", sed), ("seq", seq), ("sleep", sleep), ("sort", sort), ("stat", stat),
    ("sync", constant 0), ("tac", tac), ("tail", tail), ("tee", tee), ("test", testing false),
    ("[", testing true), ("touch", touch), ("tr", tr), ("true", constant 0),
    ("truncate", truncate), ("tty", tty), ("uname", uname), ("uniq", uniq), ("wc", wc),
    ("whoami", telling "root"), ("yes", yes)]

end BuildPipeline.Shell.Tools
