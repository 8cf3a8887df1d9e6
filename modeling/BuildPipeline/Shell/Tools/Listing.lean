import BuildPipeline.Shell.Pattern
import BuildPipeline.Shell.Tools.Files

/-!
Programs that list folders and tell where names lead.
-/
namespace BuildPipeline.Shell.Tools

/-! ### Folders -/

def nameSign (options : Options) (n : Node) : String :=
  let marks := options.has 'F'
  match n with
  | .folder _ => if marks || options.has 'p' then "/" else ""
  | .link _ => if marks then "@" else ""
  | .file _ true => if marks then "*" else ""
  | _ => ""

def sortedEntries (options : Options) (entries : List (String × Node)) : List (String × Node) :=
  let bySize := options.has 'S'
  let isBefore (a b : String × Node) : Bool :=
    if bySize && a.2.size ≠ b.2.size then b.2.size < a.2.size else a.1 ≤ b.1
  let sorted := if options.has 'U' || options.has 'f' then entries
    else entries.mergeSort isBefore
  if options.has 'r' then sorted.reverse else sorted

/-- What is known of an entry, in columns. -/
def details (n : Node) : List String :=
  let letter := match n with
    | .folder _ => "d"
    | .link _ => "l"
    | .device _ => "c"
    | .file .. => "-"
  let names : Nat := match n with
    | .folder entries => entries.foldl (fun k e => if e.2.isFolder then k + 1 else k) 2
    | _ => 1
  let size : Nat := if n.isFolder then 4096 else n.size
  [letter ++ Permission.columns (modeOf n), toString names, "root", "root", toString size]

/-- Files have no times of their own; all show the beginning of 1970. -/
def shownTime : String := "Jan  1  1970"

def longLines (options : Options) (entries : List (String × Node)) : List String :=
  let rows := entries.map fun e => details e.2
  let width (k : Nat) : Nat := rows.foldl (fun w r => max w (r.getD k "").length) 0
  (entries.zip rows).map fun ((name, n), row) =>
    let cells := row.mapIdx fun k cell =>
      String.ofList (List.replicate (width k - cell.length) ' ') ++ cell
    let target := match n with
      | .link target => " -> " ++ target
      | _ => nameSign options n
    String.intercalate " " (cells ++ [shownTime, name]) ++ target

def entryLines (options : Options) (entries : List (String × Node)) : List String :=
  let sorted := sortedEntries options entries
  if options.has 'l' then longLines options sorted
  else sorted.map fun e => e.1 ++ nameSign options e.2

/-- The blocks of 1024 bytes that an entry takes. -/
def blockCount : Node → Nat
  | .file content _ => (content.size + 4095) / 4096 * 4
  | .folder _ => 4
  | _ => 0

def folderLines (options : Options) (folder : List (String × Node)) : List String :=
  let all := options.has 'a' || options.has 'f'
  let dots := if all then [(".", Node.folder folder), ("..", Node.folder folder)] else []
  let shown := (dots ++ folder).filter fun e =>
    all || options.has 'A' || !e.1.startsWith "."
  let sum := total (shown.map fun e => blockCount e.2)
  (if options.has 'l' then ["total " ++ toString sum] else []) ++ entryLines options shown

/-- The blocks for a folder and, on request, for those below it. -/
def folderBlocks (options : Options) (budget : Nat) (heading : Bool) (p : String)
    (entries : List (String × Node)) : List String :=
  match budget with
  | 0 => []
  | n + 1 =>
    let block := (if heading then p ++ ":\n" else "") ++
      String.join ((folderLines options entries).map (· ++ "\n"))
    let below := if !options.has 'R' then []
      else (sortedEntries options entries).flatMap fun e => match e.2 with
        | .folder inner =>
          if e.1.startsWith "." && !(options.has 'a' || options.has 'A') then []
          else folderBlocks options n true
            ((if p.endsWith "/" then p else p ++ "/") ++ e.1) inner
        | _ => []
    block :: below

def lsRules : OptionRules :=
  { plain := "aA1dlFprRStUfhinogqQLHCxmkscuGBNvXZ", valued := "wTI"
    long := [("all", 'a'), ("almost-all", 'A'), ("directory", 'd'), ("classify", 'F'),
      ("reverse", 'r'), ("recursive", 'R')] }

def ls : Tool :=
  { rules := some lsRules
    failure := 2
    run := fun options s =>
      let operands := if options.operands.isEmpty then ["."] else options.operands
      let follows := !(options.has 'l' || options.has 'd' || options.has 'F') || options.has 'L'
      let itself? (p : String) : Option Node := match s.files.locate ⟨p⟩ .entry with
        | .ok ⟨_, n⟩ => n
        | .error _ => none
      let node? (p : String) : Option Node :=
        if follows then (s.files.stat ⟨p⟩).toOption.or (if options.has 'L' then none else itself? p)
        else itself? p
      let nodes := operands.filterMap fun p => (node? p).map fun n => (p, n)
      let missing := operands.filter fun p => (nodes.lookup p).isNone
      let s := eachOperand missing (fun p s =>
        let e := match s.files.stat ⟨p⟩ with
          | .error e => e
          | .ok _ => .notFound
        complain ("cannot access " ++ inQuotes p ++ ": " ++ faultText e) 2 s) s
      let sorted := sortedEntries options nodes
      let (folders, others) := sorted.partition fun e => e.2.isFolder && !options.has 'd'
      let first := String.join ((entryLines options others).map (· ++ "\n"))
      let heading := 1 < operands.length || options.has 'R'
      let blocks := folders.flatMap fun e => folderBlocks options 1000 heading e.1
        (match e.2 with
          | .folder entries => entries
          | _ => [])
      let blocks := if others.isEmpty then blocks else first :: blocks
      emitOr 2 (Bytes.ofText (String.intercalate "\n" blocks)) s }

/-! ### Paths -/

def withoutSlashes (p : String) : String :=
  let cs := (p.toList.reverse.dropWhile (· = '/')).reverse
  if cs.isEmpty && !p.isEmpty then "/" else String.ofList cs

def baseOf (p : String) : String :=
  let p := withoutSlashes p
  if p = "/" then p
  else String.ofList (p.toList.reverse.takeWhile (· ≠ '/')).reverse

/-- A name without an ending, unless it is nothing else. -/
def withoutEnding (ending name : String) : String :=
  if name ≠ ending && name.endsWith ending then
    String.ofList (name.toList.take (name.length - ending.length))
  else name

def basename : Tool := needing "operand"
  { plain := "az", valued := "s", long := [("multiple", 'a'), ("suffix", 's')], mixed := false }
  fun options s =>
  match options.value? 's', options.has 'a', options.operands with
  | none, false, [p] => emitLines [baseOf p] s
  | none, false, [p, ending] => emitLines [withoutEnding ending (baseOf p)] s
  | none, false, _ :: _ :: extra :: _ => misused ("extra operand " ++ inQuotes extra) 1 s
  | ending, _, operands =>
    emitLines (operands.map fun p => withoutEnding (ending.getD "") (baseOf p)) s

def dirOf (p : String) : String :=
  let trimmed := withoutSlashes p
  let cs := (trimmed.toList.reverse.dropWhile (· ≠ '/')).reverse
  if cs.isEmpty then (if trimmed = "/" then "/" else ".") else withoutSlashes (String.ofList cs)

def dirname : Tool := needing "operand" { plain := "z", long := [("zero", 'z')] } fun options s =>
  emitLines (options.operands.map dirOf) s

/-- The place of a path whose last name may be missing. -/
def placeOf (mustExist : Bool) (p : String) (s : State) : Except IoError String :=
  match s.files.locate ⟨p⟩ .target with
  | .error e => .error e
  | .ok ⟨names, node⟩ =>
    if mustExist && node.isNone then .error .notFound
    else .ok ("/" ++ (Path.ofNames names).text)

def realpath : Tool := needing "operand"
  { plain := "emsqzLP", long := [("canonicalize-existing", 'e'), ("canonicalize-missing", 'm'),
      ("no-symlinks", 's'), ("strip", 's'), ("quiet", 'q')] } fun options s =>
  eachOperand options.operands (fun p s =>
    match placeOf (options.has 'e') p s with
    | .ok path => emitLines [path] s
    | .error e =>
      if options.has 'q' then s.withStatus 1 else plainFault 1 p e s) s

def readlink : Tool := needing "operand"
  { plain := "femnqsvz", long := [("canonicalize", 'f'), ("no-newline", 'n')] } fun options s =>
  let ending := if options.has 'n' && options.operands.length = 1 then "" else "\n"
  eachOperand options.operands (fun p s =>
    let found? : Option String :=
      if options.has 'f' || options.has 'e' || options.has 'm' then
        (placeOf (options.has 'e') p s).toOption
      else match s.files.locate ⟨p⟩ .entry with
        | .ok ⟨_, some (.link target)⟩ => some target
        | _ => none
    match found? with
    | some text => emitText (text ++ ending) s
    | none => s.withStatus 1) s

/-! ### What a file is -/

def kindName : Node → String
  | .file content _ => if content.isEmpty then "regular empty file" else "regular file"
  | .folder _ => "directory"
  | .link _ => "symbolic link"
  | .device _ => "character special file"

/-- A format in which letters after percent signs stand for what is known of a file. -/
def fileFormat (p : String) (n : Node) : List Char → String
  | '%' :: c :: rest =>
    (match c with
      | 'n' => p
      | 's' => toString n.size
      | 'F' => kindName n
      | 'a' => toString (Permission.octalText 1 (modeOf n))
      | 'U' | 'G' => "root"
      | 'u' | 'g' => "0"
      | 'h' => "1"
      | '%' => "%"
      | _ => "?") ++ fileFormat p n rest
  | c :: rest => c.toString ++ fileFormat p n rest
  | [] => ""

def stat : Tool := needing "operand"
  { plain := "Lft", valued := "c", long := [("format", 'c'), ("dereference", 'L')] }
  fun options s =>
  eachOperand options.operands (fun p s =>
    match copied (!options.has 'L') p s with
    | .ok ⟨_, some n⟩ =>
      emitLines [fileFormat p n ((options.value? 'c').getD "%n").toList] s
    | .ok ⟨_, none⟩ => s
    | .error e => complain ("cannot statx " ++ inQuotes p ++ ": " ++ faultText e) 1 s) s

/-! ### Searching trees -/

/-- What a search asks of each path, and what it does with it. -/
inductive Search
  | always (value : Bool)
  | named (folded whole : Bool) (pattern : String)
  | kind (letter : Char)
  /-- The size in units, compared with a number. -/
  | size (sign : Option Char) (number unit : Nat)
  | empty
  | prune
  | remove
  | tell (ending : String)
  | execute (command : List String) (gathered : Bool)
  | negated (a : Search)
  | both (a b : Search)
  | either (a b : Search)
  deriving Inhabited

inductive SearchStep
  | tell (text : String)
  | remove (path : String)
  | execute (command : List String)
  /-- A path for a command that is run once at the end. -/
  | gather (command : List String) (path : String)

namespace Search

/-- Whether a search does something by itself. -/
def acts : Search → Bool
  | .remove | .tell _ | .execute .. => true
  | .negated a => a.acts
  | .both a b | .either a b => a.acts || b.acts
  | _ => false

def fits (folded : Bool) (pattern name : String) : Bool :=
  let fold (t : String) : String := if folded then t.toLower else t
  Pattern.isMatch (Pattern.ofField ((fold pattern).toList.map fun c => (false, c)))
    (fold name).toList

/-- What came of a path: whether it passed, what is to be done, and whether to go further down. -/
structure Verdict where
  passed : Bool
  steps : List SearchStep := []
  down : Bool := true

def judge (p : String) (n : Node) : Search → Verdict
  | .always value => ⟨value, [], true⟩
  | .named folded whole pattern => ⟨fits folded pattern (if whole then p else baseOf p), [], true⟩
  | .kind letter => ⟨match letter, n with
      | 'f', .file .. | 'd', .folder _ | 'l', .link _ | 'c', .device _ => true
      | _, _ => false, [], true⟩
  | .size sign number unit =>
    let units := ((if n.isFolder then 4096 else n.size) + unit - 1) / unit
    ⟨match sign with
      | some '+' => number < units
      | some _ => units < number
      | none => units = number, [], true⟩
  | .empty => ⟨match n with
      | .file content _ => content.isEmpty
      | .folder entries => entries.isEmpty
      | _ => false, [], true⟩
  | .prune => ⟨true, [], false⟩
  | .remove => ⟨true, [.remove p], true⟩
  | .tell ending => ⟨true, [.tell (p ++ ending)], true⟩
  | .execute command gathered =>
    if gathered then ⟨true, [.gather command p], true⟩
    else ⟨true, [.execute (command.map fun w => p.intercalate (w.splitOn "\x7b\x7d"))], true⟩
  | .negated a =>
    let v := judge p n a
    { v with passed := !v.passed }
  | .both a b =>
    let v := judge p n a
    if v.passed then
      let w := judge p n b
      ⟨w.passed, v.steps ++ w.steps, v.down && w.down⟩
    else v
  | .either a b =>
    let v := judge p n a
    if v.passed then v
    else
      let w := judge p n b
      ⟨w.passed, v.steps ++ w.steps, v.down && w.down⟩

structure Bounds where
  least : Nat := 0
  most : Nat := 1000
  /-- Whether a folder comes after what is in it. -/
  inwards : Bool := false

def walk (search : Search) (bounds : Bounds) (budget depth : Nat) (p : String) (n : Node) :
    List SearchStep :=
  match budget with
  | 0 => []
  | k + 1 =>
    let v := if bounds.least ≤ depth then judge p n search else ⟨false, [], true⟩
    let below := match n with
      | .folder entries =>
        if depth < bounds.most && v.down then
          entries.flatMap fun e =>
            walk search bounds k (depth + 1) ((if p.endsWith "/" then p else p ++ "/") ++ e.1) e.2
        else []
      | _ => []
    if bounds.inwards then below ++ v.steps else v.steps ++ below

def readCommand : List String → Option (List String × Bool × List String)
  | [] => none
  | ";" :: rest => some ([], false, rest)
  | "\x7b\x7d" :: "+" :: rest => some ([], true, rest)
  | w :: rest => (readCommand rest).map fun r => (w :: r.1, r.2)

/-- A size with a unit, perhaps after a sign. -/
def readSize? (text : String) : Option Search :=
  let (sign, cs) := match text.toList with
    | '+' :: cs => (some '+', cs)
    | '-' :: cs => (some '-', cs)
    | cs => (none, cs)
  let digits := cs.takeWhile Char.isDigit
  let unit? : Option Nat := match cs.drop digits.length with
    | [] | ['b'] => some 512
    | ['c'] => some 1
    | ['w'] => some 2
    | ['k'] => some 1024
    | ['M'] => some 1048576
    | ['G'] => some 1073741824
    | _ => none
  match (String.ofList digits).toNat?, unit? with
  | some n, some u => some (.size sign n u)
  | _, _ => none

def readPrimary (words : List String) : Except String (Search × List String) :=
  match words with
  | "-name" :: p :: rest => .ok (.named false false p, rest)
  | "-iname" :: p :: rest => .ok (.named true false p, rest)
  | "-path" :: p :: rest | "-wholename" :: p :: rest => .ok (.named false true p, rest)
  | "-ipath" :: p :: rest => .ok (.named true true p, rest)
  | "-type" :: t :: rest => .ok (.kind (t.toList.headD 'f'), rest)
  | "-size" :: t :: rest =>
    (match readSize? t with
      | some search => .ok (search, rest)
      | none => .error ("invalid -size type " ++ backQuoted t))
  | "-empty" :: rest => .ok (.empty, rest)
  | "-true" :: rest => .ok (.always true, rest)
  | "-false" :: rest => .ok (.always false, rest)
  | "-prune" :: rest => .ok (.prune, rest)
  | "-delete" :: rest => .ok (.remove, rest)
  | "-print" :: rest => .ok (.tell "\n", rest)
  | "-print0" :: rest => .ok (.tell "\x00", rest)
  | "-exec" :: rest =>
    (match readCommand rest with
      | some (command, gathered, rest) => .ok (.execute command gathered, rest)
      | none => .error ("missing argument to " ++ backQuoted "-exec"))
  | w :: [] =>
    if ["-name", "-iname", "-path", "-type", "-size"].contains w then
      .error ("missing argument to " ++ backQuoted w)
    else .error ("unknown predicate " ++ backQuoted w)
  | w :: _ => .error ("unknown predicate " ++ backQuoted w)
  | [] => .error "expected an expression"

mutual
def readEither (budget : Nat) (words : List String) : Except String (Search × List String) :=
  match budget with
  | 0 => .error "expected an expression"
  | n + 1 => do
    let (a, rest) ← readBoth n words
    match rest with
    | "-o" :: rest | "-or" :: rest =>
      let (b, rest) ← readEither n rest
      return (.either a b, rest)
    | rest => return (a, rest)

def readBoth (budget : Nat) (words : List String) : Except String (Search × List String) :=
  match budget with
  | 0 => .error "expected an expression"
  | n + 1 => do
    let (a, rest) ← readNegated n words
    match rest with
    | [] | "-o" :: _ | "-or" :: _ | ")" :: _ => return (a, rest)
    | "-a" :: rest | "-and" :: rest | rest =>
      let (b, rest) ← readBoth n rest
      return (.both a b, rest)

def readNegated (budget : Nat) (words : List String) : Except String (Search × List String) :=
  match budget, words with
  | 0, _ => .error "expected an expression"
  | n + 1, "!" :: rest | n + 1, "-not" :: rest => do
    let (a, rest) ← readNegated n rest
    return (.negated a, rest)
  | n + 1, "(" :: rest => do
    let (a, rest) ← readEither n rest
    match rest with
    | ")" :: rest => return (a, rest)
    | _ => .error "invalid expression; I was expecting to find a ')' somewhere but did not see one."
  | _, words => readPrimary words
end

/-- Takes bounds out of an expression, in which they may stand anywhere. -/
def readBounds (bounds : Bounds) : List String → Bounds × List String
  | "-maxdepth" :: d :: rest => readBounds { bounds with most := d.toNat?.getD 0 } rest
  | "-mindepth" :: d :: rest => readBounds { bounds with least := d.toNat?.getD 0 } rest
  | "-depth" :: rest => readBounds { bounds with inwards := true } rest
  | w :: rest =>
    let (bounds, rest) := readBounds bounds rest
    (if w = "-delete" then { bounds with inwards := true } else bounds, w :: rest)
  | [] => (bounds, [])

def read (arguments : List String) : Except String (List String × Bounds × Search) :=
  let isPath (a : String) : Bool := !(a.startsWith "-" || a = "(" || a = "!")
  let paths := arguments.takeWhile isPath
  let (bounds, words) := readBounds {} (arguments.drop paths.length)
  let paths := if paths.isEmpty then ["."] else paths
  if words.isEmpty then .ok (paths, bounds, .tell "\n")
  else match readEither (words.length * 4 + 8) words with
    | .error e => .error e
    | .ok (search, []) =>
      .ok (paths, bounds, if search.acts then search else .both search (.tell "\n"))
    | .ok (_, w :: _) => .error ("paths must precede expression: '" ++ w ++ "'")

/-- What a search does, or why it cannot be made; also the paths that are not there. -/
def steps (arguments : List String) (s : State) :
    Except String (List SearchStep × List (String × IoError)) :=
  (read arguments).map fun (paths, bounds, search) =>
    let placed := paths.map fun p => (p, copied true p s)
    (placed.flatMap fun (p, r) => match r with
        | .ok ⟨_, some n⟩ => walk search bounds 1000 0 p n
        | _ => [],
      placed.filterMap fun (p, r) => match r with
        | .error e => some (p, e)
        | .ok _ => none)

end Search
end BuildPipeline.Shell.Tools
