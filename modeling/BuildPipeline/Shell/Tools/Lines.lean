import BuildPipeline.Decimal.Places
import BuildPipeline.Shell.Tools.Basic

/-!
Programs that pick, order, count and join lines.
-/
namespace BuildPipeline.Shell.Tools

/-! ### The front and the back of a text -/

structure Portion where
  inBytes : Bool
  /-- Counted from the other end than usual. -/
  flipped : Bool
  count : Nat

/-- A count with a sign in front that may flip it. -/
def portion? (inBytes : Bool) (flip : Char) (text : String) : Option Portion :=
  match text.toList with
  | c :: rest =>
    if c = flip then (size? (String.ofList rest)).map fun n => ⟨inBytes, true, n⟩
    else if c = '-' || c = '+' then (size? (String.ofList rest)).map fun n => ⟨inBytes, false, n⟩
    else (size? text).map fun n => ⟨inBytes, false, n⟩
  | [] => none

/-- A count given as an option of its own. -/
def spellCount (arguments : List String) : List String :=
  match arguments with
  | a :: rest => match a.toList with
    | '-' :: d :: more =>
      if d.isDigit && more.all Char.isDigit then "-n" :: String.ofList (d :: more) :: rest
      else arguments
    | '+' :: d :: more =>
      if d.isDigit && more.all Char.isDigit then "-n" :: a :: rest else arguments
    | _ => arguments
  | [] => []

def portionRules : OptionRules where
  plain := "qvfFz"
  valued := "nc"
  long := [("lines", 'n'), ("bytes", 'c'), ("quiet", 'q'), ("silent", 'q'), ("verbose", 'v')]

/-- The portion that options ask for, or what asks for it in vain. -/
def chosenPortion (isFront : Bool) (options : Options) : Except (Bool × String) Portion :=
  let inBytes := options.last? "nc" = some 'c'
  let text := (options.value? (if inBytes then 'c' else 'n')).getD "10"
  match portion? inBytes (if isFront then '-' else '+') text with
  | some portion => .ok portion
  | none => .error (inBytes, text)

def headAppetite? (arguments : List String) : Option Appetite :=
  match Options.read portionRules (spellCount arguments) with
  | .error _ => none
  | .ok options => match options.operands, chosenPortion true options with
    | [], .ok portion =>
      if portion.flipped then none else some ⟨portion.inBytes, portion.count⟩
    | _, _ => none

/-- A part of each file, below its name if there are several. -/
def portions (isFront : Bool) : Tool :=
  { rules := some portionRules
    prepare := spellCount
    run := fun options s =>
      match chosenPortion isFront options with
      | .error (inBytes, text) =>
        complain ("invalid number of " ++ (if inBytes then "bytes" else "lines") ++ ": " ++
          inQuotes text) 1 s
      | .ok portion =>
        let pick {α : Type} (xs : List α) : List α :=
          match isFront, portion.flipped with
          | true, false => xs.take portion.count
          | true, true => xs.take (xs.length - portion.count)
          | false, false => xs.drop (xs.length - portion.count)
          | false, true => xs.drop (portion.count - 1)
        let part (content : Bytes) : Bytes :=
          if portion.inBytes then pick content else (pick (Bytes.lines content)).flatten
        let names := if options.operands.isEmpty then ["-"] else options.operands
        let headed := (1 < names.length && !options.has 'q') || options.has 'v'
        let heading (isFirst : Bool) (name : String) : Bytes :=
          if headed then
            Bytes.ofText ((if isFirst then "" else "\n") ++ "==> " ++
              (if name = "-" then "standard input" else name) ++ " <==\n")
          else []
        let read (name : String) (s : State) : Except IoError Bytes × State :=
          match isFront, s.files.stat ⟨name⟩ with
          | true, .ok (.device .zero) => (.ok (List.replicate portion.count 0), s)
          | _, _ => source name s
        (names.foldl
          (fun (r : Bool × State) name => match read name r.2 with
            | (.ok content, s) => (false, emit (heading r.1 name ++ part content) s)
            | (.error .isFolder, s) =>
              (false, complain ("error reading " ++ inQuotes name ++ ": Is a directory") 1
                (emit (heading r.1 name) s))
            | (.error e, s) =>
              (r.1, complain ("cannot open " ++ inQuotes name ++ " for reading: " ++ faultText e) 1
                s))
          (true, s)).2 }

def head : Tool := portions true

def tail : Tool := portions false

/-! ### Order -/

structure Order where
  numeric : Bool := false
  general : Bool := false
  scaled : Bool := false
  version : Bool := false
  folded : Bool := false
  dictionary : Bool := false
  reverse : Bool := false
  trimmed : Bool := false

def Order.add (o : Order) (letter : Char) : Order :=
  match letter with
  | 'n' => { o with numeric := true }
  | 'g' => { o with general := true }
  | 'h' => { o with scaled := true }
  | 'V' => { o with version := true }
  | 'f' => { o with folded := true }
  | 'd' => { o with dictionary := true }
  | 'r' => { o with reverse := true }
  | 'b' => { o with trimmed := true }
  | _ => o

structure Key where
  first : Nat × Nat
  last : Option (Nat × Nat)
  order : Order
  /-- Whether it has letters of its own. -/
  ordered : Bool

/-- The value of digits, with a fraction, and how many digits that has. -/
def numericValue (bs : Bytes) : Int × Nat :=
  let cs := (Bytes.chars bs).dropWhile fun c => c = ' ' || c = '\t'
  let (negative, cs) := match cs with
    | '-' :: rest => (true, rest)
    | rest => (false, rest)
  let whole := cs.takeWhile Char.isDigit
  let places := match cs.drop whole.length with
    | '.' :: rest => rest.takeWhile Char.isDigit
    | _ => []
  let n : Nat := (whole ++ places).foldl (fun n c => n * 10 + (c.toNat - 48)) 0
  (if negative then -(n : Int) else n, places.length)

def compareNumeric (a b : Bytes) : Ordering :=
  let (m, p) := numericValue a
  let (n, q) := numericValue b
  compare (m * (Nat.pow 10 q : Nat)) (n * (Nat.pow 10 p : Nat))

/-- The value of a number of any form; what is none comes first. -/
def compareGeneral (a b : Bytes) : Ordering :=
  match Decimal.readNumber (Bytes.chars a), Decimal.readNumber (Bytes.chars b) with
  | none, none => .eq
  | none, some _ => .lt
  | some _, none => .gt
  | some (x, _), some (y, _) => if x < y then .lt else if y < x then .gt else .eq

/-- Runs of digits count as numbers. -/
def versionRuns (bs : Bytes) : List (Nat × Bytes) :=
  let isDigit (b : UInt8) : Bool := 48 ≤ b && b ≤ 57
  (bs.splitBy fun a b => isDigit a == isDigit b).map fun run =>
    if run.all isDigit then (run.foldl (fun n b => n * 10 + (b.toNat - 48)) 0 + 1, []) else (0, run)

def compareScaled (a b : Bytes) : Ordering :=
  let rank (bs : Bytes) : Int :=
    let (value, _) := numericValue bs
    let cs := (Bytes.chars bs).dropWhile fun c => c = ' ' || c = '\t' || c = '-'
    let unit := (cs.dropWhile fun c => c.isDigit || c = '.').headD ' '
    let n : Nat := ("KMGTPEZYRQ".toList.idxOf? (if unit = 'k' then 'K' else unit)).elim 0 (· + 1)
    if value < 0 then -(n + 1 : Int) else if value = 0 then 0 else n + 1
  (compare (rank a) (rank b)).then (compareNumeric a b)

def compareBytes (a b : Bytes) : Ordering := compareOfLessAndEq a b

def compareVersions : List (Nat × Bytes) → List (Nat × Bytes) → Ordering
  | [], [] => .eq
  | [], _ => .lt
  | _, [] => .gt
  | x :: xs, y :: ys =>
    ((compare x.1 y.1).then (compareBytes x.2 y.2)).then (compareVersions xs ys)

def Order.compare (o : Order) (a b : Bytes) : Ordering :=
  let shown (bs : Bytes) : Bytes :=
    let bs := if o.trimmed then bs.dropWhile fun b => b = 32 || b = 9 else bs
    let cs := Bytes.chars bs
    let cs := if o.dictionary then cs.filter fun c => c.isAlphanum || c = ' ' || c = '\t' else cs
    Bytes.ofChars (if o.folded then cs.map Char.toUpper else cs)
  let r := if o.numeric then compareNumeric a b
    else if o.general then compareGeneral a b
    else if o.scaled then compareScaled a b
    else if o.version then compareVersions (versionRuns a) (versionRuns b)
    else compareBytes (shown a) (shown b)
  if o.reverse then r.swap else r

def fieldBounds (separator : Option UInt8) (line : Bytes) : List (Nat × Nat) :=
  let lengths := match separator with
    | some b => (Bytes.split b line).map List.length
    | none =>
      let isBlank (b : UInt8) : Bool := b = 32 || b = 9
      (line.splitBy fun a b => isBlank a || !isBlank b).map List.length
  let gap := if separator.isSome then 1 else 0
  (lengths.foldl (fun (r : Nat × List (Nat × Nat)) n =>
    (r.1 + n + gap, r.2 ++ [(r.1, r.1 + n)])) (0, [])).2

def Key.of (k : Key) (separator : Option UInt8) (line : Bytes) : Bytes :=
  let bounds := fieldBounds separator line
  let blanks (place : Nat) : Nat :=
    if k.order.trimmed then ((line.drop place).takeWhile fun b => b = 32 || b = 9).length else 0
  let start := match bounds[k.first.1 - 1]? with
    | some (a, _) => a + blanks a + (k.first.2 - 1)
    | none => line.length
  let stop := match k.last with
    | none => line.length
    | some (field, char) => match bounds[field - 1]? with
      | some (a, b) => if char = 0 then b else min (a + blanks a + char) line.length
      | none => line.length
  (line.take stop).drop start

/-- A key such as 2.1,3n. -/
def key? (text : String) : Option Key :=
  let position (cs : List Char) : Option (Nat × Nat) × List Char :=
    let field := cs.takeWhile Char.isDigit
    let rest := cs.drop field.length
    let (char, rest) := match rest with
      | '.' :: more => (more.takeWhile Char.isDigit, more.dropWhile Char.isDigit)
      | rest => ([], rest)
    let number (ds : List Char) : Nat := ds.foldl (fun n c => n * 10 + (c.toNat - 48)) 0
    (if field.isEmpty then none else some (number field, number char), rest)
  let letters (cs : List Char) : List Char := cs.takeWhile Char.isAlpha
  match position text.toList with
  | (some (field, char), rest) =>
    let before := letters rest
    let rest := rest.drop before.length
    let (last, after) := match rest with
      | ',' :: more =>
        let (last, more) := position more
        (last, letters more)
      | _ => (none, [])
    let order := (before ++ after).foldl Order.add {}
    if field = 0 then none
    else some ⟨(field, max 1 char), last, order, !(before ++ after).isEmpty⟩
  | _ => none

def Order.letters : String := "nghVfdrbiMR"

/-- How whole lines are compared: by their keys, and then in full unless that is not wanted. -/
def compareLines (global : Order) (keys : List Key) (separator : Option UInt8) (stable : Bool)
    (a b : Bytes) : Ordering :=
  let byKeys := keys.foldl
    (fun r k => r.then
      ((if k.ordered then k.order else global).compare (k.of separator a) (k.of separator b)))
    .eq
  let r := if keys.isEmpty then global.compare a b else byKeys
  if stable then r
  else
    let full := compareBytes a b
    r.then (if global.reverse then full.swap else full)

def firstDisorder (isAfter : Bytes → Bytes → Bool) (number : Nat) :
    List Bytes → Option (Nat × Bytes)
  | a :: b :: rest =>
    if isAfter a b then some (number + 1, b) else firstDisorder isAfter (number + 1) (b :: rest)
  | _ => none

def sort : Tool :=
  { rules := some {
      plain := Order.letters ++ "uscCmz", valued := "ktoST"
      long := [("numeric-sort", 'n'), ("reverse", 'r'), ("unique", 'u'), ("key", 'k'),
        ("field-separator", 't'), ("output", 'o'), ("stable", 's'), ("check", 'c'),
        ("ignore-case", 'f'), ("version-sort", 'V'), ("general-numeric-sort", 'g'),
        ("ignore-leading-blanks", 'b'), ("dictionary-order", 'd')] }
    failure := 2
    run := fun options s =>
      let global := options.given.foldl (fun o g => o.add g.1) ({} : Order)
      let keyTexts := options.given.filterMap fun g => if g.1 = 'k' then some g.2 else none
      let separator := (options.value? 't').map fun t =>
        if t = "\\0" then 0 else (Bytes.ofText t).headD 0
      let names := if options.operands.isEmpty then ["-"] else options.operands
      match keyTexts.find? fun t => (key? t).isNone with
      | some t => complain ("-: invalid number at field start: invalid count at start of " ++
          inQuotes t) 2 s
      | none =>
        let keys := keyTexts.filterMap key?
        let (contents, s) := names.foldl
          (fun (r : List Bytes × State) name => match source name r.2 with
            | (.ok content, s) => (r.1 ++ [content], s)
            | (.error e, s) => match e with
              | .isFolder =>
                (r.1, complain ("read failed: " ++ quoted name ++ ": Is a directory") 2 s)
              | e => (r.1, complain ("cannot read: " ++ quoted name ++ ": " ++ faultText e) 2 s))
          ([], s)
        let lines := (contents.flatMap Bytes.lines).map Bytes.body
        let order := compareLines global keys separator (options.has 's' || options.has 'u')
        if s.status ≠ 0 then s
        else if options.has 'c' || options.has 'C' then
          let isAfter (a b : Bytes) : Bool :=
            order a b = .gt || (options.has 'u' && order a b = .eq)
          match firstDisorder isAfter 1 lines with
          | none => s
          | some (number, line) =>
            if options.has 'C' then s.withStatus 1
            else
              ((s.say 2 (ownName s ++ ": " ++ names.headD "-" ++ ":" ++ toString number ++
                ": disorder: ")).write 2 (line ++ [10]).toByteArray).1.withStatus 1
        else
          let sorted := lines.mergeSort fun a b => order a b ≠ .gt
          let sorted := if options.has 'u' then
              (sorted.splitBy fun a b => order a b = .eq).filterMap List.head?
            else sorted
          let bytes := sorted.flatMap fun line => line ++ [10]
          match options.value? 'o' with
          | none => emitOr 2 bytes s
          | some p => match store p false bytes s with
            | .ok s => s
            | .error e => complain ("open failed: " ++ quoted p ++ ": " ++ faultText e) 2 s }

def tac : Tool := filter { plain := "b" } fun _ content => (Bytes.lines content).reverse.flatten

def rev : Tool := filter {} fun _ content =>
  (Bytes.lines content).flatMap fun line =>
    let ending := line.drop (Bytes.body line).length
    (String.ofList (Text.decodeBytes (Bytes.body line)).reverse).toUTF8.toList ++ ending

/-- Lines with those that repeat the line before told once. -/
def uniq : Tool :=
  { rules := some {
      plain := "cduizD", valued := "fsw"
      long := [("count", 'c'), ("repeated", 'd'), ("unique", 'u'), ("ignore-case", 'i'),
        ("skip-fields", 'f'), ("skip-chars", 's'), ("check-chars", 'w')] }
    run := fun options s =>
      let number (c : Char) : Option Nat := (options.value? c).bind String.toNat?
      let skipField (bs : Bytes) : Bytes :=
        (bs.dropWhile fun b => b = 32 || b = 9).dropWhile fun b => b ≠ 32 && b ≠ 9
      let key (line : Bytes) : Bytes :=
        let bs := ((List.range ((number 'f').getD 0)).foldl (fun bs _ => skipField bs) line).drop
          ((number 's').getD 0)
        let bs := match number 'w' with
          | some n => bs.take n
          | none => bs
        if options.has 'i' then Bytes.ofChars ((Bytes.chars bs).map Char.toLower) else bs
      let (content, s) := gather (options.operands.take 1) s
      if s.status ≠ 0 then s
      else
        let runs := ((Bytes.lines content).map Bytes.body).splitBy fun a b => key a == key b
        let shown := runs.filter fun run =>
          !(options.has 'd' && run.length = 1) && !(options.has 'u' && run.length ≠ 1)
        let row (run : List Bytes) : Bytes :=
          let count := if options.has 'c' then
              Bytes.alignRight 7 (Bytes.ofText (toString run.length)) ++ [32]
            else []
          count ++ run.headD [] ++ [10]
        let bytes := shown.flatMap row
        match options.operands[1]? with
        | none => emit bytes s
        | some p => match store p false bytes s with
          | .ok s => s
          | .error e => plainFault 1 p e s }

/-- Lines of two sorted files in three columns: of the first alone, of the second alone, of both. -/
def commColumns : List Bytes → List Bytes → List (Nat × Bytes)
  | [], bs => bs.map fun b => (1, b)
  | as, [] => as.map fun a => (0, a)
  | a :: as, b :: bs =>
    if a = b then (2, a) :: commColumns as bs
    else if a < b then (0, a) :: commColumns as (b :: bs)
    else (1, b) :: commColumns (a :: as) bs
  termination_by as bs => as.length + bs.length

def comm : Tool :=
  { rules := some { plain := "123" }
    run := fun options s =>
      match options.operands with
      | [a, b] => match source a s with
        | (.error e, s) => plainFault 1 a e s
        | (.ok first, s) => match source b s with
          | (.error e, s) => plainFault 1 b e s
          | (.ok second, s) =>
            let hidden := ['1', '2', '3'].map options.has
            let row (r : Nat × Bytes) : Bytes :=
              if (hidden[r.1]?).getD false then []
              else
                let tabs := ((hidden.take r.1).filter (!·)).length
                List.replicate tabs 9 ++ r.2 ++ [10]
            let lines (bs : Bytes) := (Bytes.lines bs).map Bytes.body
            emit ((commColumns (lines first) (lines second)).flatMap row) s
      | [] => misused "missing operand" 1 s
      | [a] => misused ("missing operand after " ++ inQuotes a) 1 s
      | _ :: _ :: c :: _ => misused ("extra operand " ++ inQuotes c) 1 s }

/-! ### Counts -/

/-- Numbers of lines, words, characters and bytes, and the length of the longest line. -/
def countText (content : Bytes) : List Nat :=
  let longest := ((Bytes.lines content).map fun l => (Bytes.body l).length).foldl max 0
  [content.count 10, (Bytes.words content).length, content.length, content.length, longest]

def wc : Tool :=
  { rules := some {
      plain := "lwmcL"
      long := [("lines", 'l'), ("words", 'w'), ("chars", 'm'), ("bytes", 'c'),
        ("max-line-length", 'L')] }
    run := fun options s =>
      let chosen := "lwmcL".toList.map options.has
      let chosen := if chosen.any id then chosen else [true, true, false, true, false]
      let pick (numbers : List Nat) : List Nat :=
        (chosen.zip numbers).filterMap fun x => if x.1 then some x.2 else none
      let names := if options.operands.isEmpty then ["-"] else options.operands
      let ofFile := match s.stream? 0 with
        | some (.input _ ofFile) => ofFile
        | _ => false
      let results : List (String × Bytes) × State := names.foldl
        (fun r name => match source name r.2 with
          | (.ok content, s) => (r.1 ++ [(name, content)], s)
          | (.error .isFolder, s) => (r.1 ++ [(name, [])], plainFault 1 name .isFolder s)
          | (.error e, s) => (r.1, plainFault 1 name e s))
        ([], s)
      let (read, s) := results
      let rows := read.map fun r => (r.1, countText r.2)
      let total := rows.foldl
        (fun t row => match t, row.2 with
          | [a, b, c, d, e], [k, l, m, n, o] => [a + k, b + l, c + m, d + n, max e o]
          | t, _ => t)
        [0, 0, 0, 0, 0]
      let isOdd := read.any fun r => (r.1 = "-" && !ofFile) || s.files.isFolder ⟨r.1⟩
      let digits := (toString ((read.map fun r => r.2.length).foldl (· + ·) 0)).length
      let width := if names.length = 1 && (pick total).length = 1 then 1
        else if isOdd then max 7 digits else digits
      let line (name : String) (numbers : List Nat) : String :=
        String.intercalate " " ((pick numbers).map fun n =>
          let ds := toString n
          String.ofList (List.replicate (width - ds.length) ' ') ++ ds) ++
          (if name = "-" && options.operands.isEmpty then "" else " " ++ name) ++ "\n"
      let rows := if 1 < names.length then rows ++ [("total", total)] else rows
      emitText (String.join (rows.map fun row => line row.1 row.2)) s }

def nl : Tool := filter
  { plain := "p", valued := "bwsnvihfdl"
    long := [("body-numbering", 'b'), ("number-width", 'w'), ("number-separator", 's'),
      ("number-format", 'n'), ("starting-line-number", 'v'), ("line-increment", 'i')] }
  fun options content =>
  let number (c : Char) (otherwise : Nat) : Nat :=
    ((options.value? c).bind String.toNat?).getD otherwise
  let width := number 'w' 6
  let all := options.value? 'b' = some "a"
  let none := options.value? 'b' = some "n"
  let separator := Bytes.ofText ((options.value? 's').getD "\t")
  let shown (n : Nat) : Bytes :=
    let ds := Bytes.ofText (toString n)
    match options.value? 'n' with
    | some "ln" => ds ++ List.replicate (width - ds.length) 32
    | some "rz" => List.replicate (width - ds.length) 48 ++ ds
    | _ => Bytes.alignRight width ds
  let step (r : Nat × Bytes) (line : Bytes) : Nat × Bytes :=
    if !none && (all || !(Bytes.body line).isEmpty) then
      (r.1 + number 'i' 1, r.2 ++ shown r.1 ++ separator ++ Bytes.ended line)
    else
      (r.1, r.2 ++ List.replicate (width + separator.length) 32 ++ Bytes.ended line)
  ((Bytes.lines content).foldl step (number 'v' 1, [])).2

/-! ### Parts of lines -/

/-- A list such as 1,3-5 as ranges. -/
def ranges? (list : String) : Option (List (Nat × Option Nat)) :=
  (list.splitOn ",").mapM fun range => match range.splitOn "-" with
    | [a] => (a.toNat?.filter (0 < ·)).map fun n => (n, some n)
    | [a, b] =>
      if a.isEmpty && b.isEmpty then none
      else do
        let first ← if a.isEmpty then some 1 else a.toNat?.filter (0 < ·)
        let last ← if b.isEmpty then some none else (b.toNat?.filter (first ≤ ·)).map some
        return (first, last)
    | _ => none

def inRanges (ranges : List (Nat × Option Nat)) (n : Nat) : Bool :=
  ranges.any fun r => r.1 ≤ n && r.2.all fun last => n ≤ last

def cut : Tool :=
  { rules := some {
      plain := "snzv", valued := "bcfdO"
      long := [("bytes", 'b'), ("characters", 'c'), ("fields", 'f'), ("delimiter", 'd'),
        ("only-delimited", 's'), ("complement", 'v'), ("output-delimiter", 'O')] }
    run := fun options s =>
      let delimiter := (options.value? 'd').getD "\t"
      let byte := (Bytes.ofText delimiter).headD 0
      match options.last? "bcf" with
      | none => misused "you must specify a list of bytes, characters, or fields" 1 s
      | some mode =>
        let list := (options.value? mode).getD ""
        match ranges? list with
        | none =>
          misused (if list.splitOn "," |>.any (· = "0") then
              (if mode = 'f' then "fields are numbered from 1"
                else "byte/character positions are numbered from 1")
            else "invalid " ++
              (if mode = 'f' then "field value " else "byte/character position ") ++
              inQuotes list) 1 s
        | some ranges =>
          let pick {α : Type} (xs : List α) : List α :=
            (xs.zip (List.range' 1 xs.length)).filterMap fun x =>
              if inRanges ranges x.2 != options.has 'v' then some x.1 else none
          let join := match options.value? 'O' with
            | some text => Bytes.ofText text
            | none => [byte]
          let change (line : Bytes) : Bytes :=
            let body := Bytes.body line
            if mode ≠ 'f' then pick body ++ [10]
            else if body.contains byte then
              List.intercalate join (pick (Bytes.split byte body)) ++ [10]
            else if options.has 's' then []
            else body ++ [10]
          if mode ≠ 'f' && (options.value? 'd').isSome then
            misused "an input delimiter may be specified only when operating on fields" 1 s
          else if 1 < (Bytes.ofText delimiter).length then
            misused "the delimiter must be a single character" 1 s
          else
            eachSource options.operands (fun _ content =>
              emit ((Bytes.lines content).flatMap change)) s }

def delimiters (cs : List Char) : List Bytes :=
  match cs with
  | '\\' :: 'n' :: rest => [10] :: delimiters rest
  | '\\' :: 't' :: rest => [9] :: delimiters rest
  | '\\' :: '0' :: rest => [] :: delimiters rest
  | '\\' :: c :: rest => Bytes.ofText c.toString :: delimiters rest
  | c :: rest => Bytes.ofText c.toString :: delimiters rest
  | [] => []

def joinInTurn (all : List Bytes) : List Bytes → List Bytes → Bytes
  | [], _ => []
  | [x], _ => x
  | x :: rest, [] => match all with
    | [] => x ++ joinInTurn all rest []
    | d :: ds => x ++ d ++ joinInTurn all rest ds
  | x :: rest, d :: ds => x ++ d ++ joinInTurn all rest ds

/-- The lines of several files side by side, or of each file in a row. -/
def paste : Tool :=
  { rules := some {
      plain := "sz", valued := "d", long := [("delimiters", 'd'), ("serial", 's')] }
    run := fun options s =>
      let ds := delimiters ((options.value? 'd').getD "\t").toList
      let names := if options.operands.isEmpty then ["-"] else options.operands
      let dashes := names.count "-"
      let (contents, s) := names.foldl
        (fun (r : List (String × List Bytes) × State) name => match source name r.2 with
          | (.ok content, s) => (r.1 ++ [(name, (Bytes.lines content).map Bytes.body)], s)
          | (.error e, s) => (r.1, plainFault 1 name e s))
        ([], s)
      if s.status ≠ 0 then s
      else if options.has 's' then
        emit (contents.flatMap fun c => joinInTurn ds c.2 ds ++ [10]) s
      else
        let shared := ((contents.find? (·.1 = "-")).map (·.2)).getD []
        let place (k : Nat) : Nat := ((names.take k).filter (· = "-")).length
        let column (k row : Nat) : Option Bytes := match contents[k]? with
          | some (name, lines) =>
            if name = "-" then shared[row * dashes + place k]? else lines[row]?
          | none => none
        let heights := contents.map fun c =>
          if c.1 = "-" then (shared.length + dashes - 1) / max 1 dashes else c.2.length
        let rows := (List.range (heights.foldl max 0)).map fun row =>
          (List.range contents.length).map fun k => (column k row).getD []
        emit (rows.flatMap fun row => joinInTurn ds row ds ++ [10]) s }

/-- Lines broken where they are too long, between words if that is wanted. -/
def foldLine (width : Nat) (atBlanks : Bool) (budget : Nat) (line : Bytes) : Bytes :=
  match budget with
  | 0 => line
  | n + 1 =>
    if line.length ≤ width then line
    else
      let piece := line.take width
      let upToBlank := (piece.reverse.dropWhile fun b => b ≠ 32 && b ≠ 9).reverse
      let piece := if atBlanks && !upToBlank.isEmpty then upToBlank else piece
      piece ++ 10 :: foldLine width atBlanks n (line.drop piece.length)

def fold : Tool := filter
  { plain := "bs", valued := "w", long := [("width", 'w'), ("spaces", 's'), ("bytes", 'b')] }
  fun options content =>
  let width := max 1 (((options.value? 'w').bind String.toNat?).getD 80)
  (Bytes.lines content).flatMap fun line =>
    foldLine width (options.has 's') (line.length + 1) (Bytes.body line) ++
      line.drop (Bytes.body line).length

def expandLine (every : Nat) (column : Nat) : Bytes → Bytes
  | [] => []
  | 9 :: rest =>
    let n := every - column % every
    List.replicate n 32 ++ expandLine every (column + n) rest
  | 10 :: rest => 10 :: expandLine every 0 rest
  | b :: rest => b :: expandLine every (column + 1) rest

def expand : Tool := filter { plain := "i", valued := "t", long := [("tabs", 't')] }
  fun options content =>
    expandLine (max 1 (((options.value? 't').bind String.toNat?).getD 8)) 0 content

/-! ### Copies -/

def visible (marks tabs : Bool) (b : UInt8) : Bytes :=
  let plain (b : UInt8) : Bytes :=
    if b < 32 then [94, b + 64] else if b = 127 then [94, 63] else [b]
  if b = 9 then (if tabs then [94, 73] else [9])
  else if !marks || b = 10 then [b]
  else if b < 128 then plain b
  else [77, 45] ++ plain (b - 128)

def catRules : OptionRules :=
  { plain := "nbsETAvetu"
    long := [("number", 'n'), ("number-nonblank", 'b'), ("squeeze-blank", 's'), ("show-ends", 'E'),
      ("show-tabs", 'T'), ("show-all", 'A'), ("show-nonprinting", 'v')] }

/-- Lines with numbers and marks, from a number on. -/
def catLines (options : Options) (content : Bytes) : Bytes :=
  let any (letters : String) : Bool := letters.toList.any options.has
  let marks := any "vAet"
  let ends := any "EAe"
  let tabs := any "TAt"
  let lines := Bytes.lines content
  let lines := if options.has 's' then
      (lines.splitBy fun a b => a = [10] && b = [10]).filterMap List.head?
    else lines
  let step (r : Nat × List Bytes) (line : Bytes) : Nat × List Bytes :=
    let body := Bytes.body line
    let numbered := if options.has 'b' then !body.isEmpty else options.has 'n'
    let number := if numbered then
        Bytes.alignRight 6 (Bytes.ofText (toString r.1)) ++ [9]
      else []
    let ending := line.drop body.length
    let row := number ++ body.flatMap (visible marks tabs) ++
      (if ends && !ending.isEmpty then 36 :: ending else ending)
    (if numbered then r.1 + 1 else r.1, row :: r.2)
  (lines.foldl step (1, [])).2.reverse.flatten

def cat : Tool :=
  { rules := some catRules
    run := fun options s =>
      if options.given.all (·.1 = 'u') then
        eachSource options.operands (fun _ content => emit content) s
      else
        let (content, s) := gather options.operands s
        emit (catLines options content) s }

def tee : Tool :=
  { rules := some { plain := "aip", long := [("append", 'a')] }
    run := fun options s =>
      let (content, s) := gather [] s
      let s := eachOperand options.operands (fun p s =>
        match store p (options.has 'a') content s with
        | .ok s => s
        | .error e => plainFault 1 p e s) s
      emit content s }

end BuildPipeline.Shell.Tools
