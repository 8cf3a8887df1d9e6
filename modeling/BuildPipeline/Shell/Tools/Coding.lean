import BuildPipeline.Shell.Pattern
import BuildPipeline.Shell.Printing
import BuildPipeline.Shell.Tools.Basic

/-!
Programs that work on single bytes: replacing them, and showing them as numbers or letters.
-/
namespace BuildPipeline.Shell.Tools

/-! ### Replacing characters -/

/-- A piece of a set: bytes, or one byte as often as it takes. -/
inductive SetPiece
  | bytes (bs : Bytes)
  | fill (b : UInt8)

/-- A single byte at the front, which may be written with a backslash. -/
def setByte (cs : List Char) : Option (UInt8 × List Char) :=
  match cs with
  | [] => none
  | '\\' :: c :: rest =>
    let digits := ((c :: rest).take 3).takeWhile Printing.isOctal
    if !digits.isEmpty then
      some (UInt8.ofNat (Printing.octalValue digits), (c :: rest).drop digits.length)
    else some ((Printing.letterByte? c).getD (UInt8.ofNat c.toNat), rest)
  | c :: rest => some (UInt8.ofNat c.toNat, rest)

def byteRange (a b : UInt8) : Bytes :=
  (List.range' a.toNat (b.toNat + 1 - a.toNat)).map UInt8.ofNat

/-- A bracketed piece at the front: a class, or a byte that is repeated. -/
def bracketed? (cs : List Char) : Option (SetPiece × List Char) :=
  match cs with
  | '[' :: ':' :: rest =>
    let name := rest.takeWhile Char.isAlpha
    match Pattern.className? (String.ofList name), rest.drop name.length with
    | some ranges, ':' :: ']' :: rest =>
      let isIn (b : UInt8) : Bool := ranges.any fun r =>
        r.1.toNat ≤ b.toNat && b.toNat ≤ r.2.toNat
      some (.bytes ((byteRange 0 255).filter isIn), rest)
    | _, _ => none
  | '[' :: '=' :: c :: '=' :: ']' :: rest => some (.bytes [UInt8.ofNat c.toNat], rest)
  | '[' :: rest => match setByte rest with
    | some (b, '*' :: rest) =>
      let digits := rest.takeWhile Char.isDigit
      match rest.drop digits.length with
      | ']' :: after =>
        let n := if digits.head? = some '0' then Printing.octalValue digits
          else (String.ofList digits).toNat?.getD 0
        some (if n = 0 then .fill b else .bytes (List.replicate n b), after)
      | _ => none
    | _ => none
  | _ => none

/-- The pieces of a set, or a range that goes backwards. -/
def setPieces (budget : Nat) (cs : List Char) : Except String (List SetPiece) :=
  match budget, cs with
  | 0, _ | _, [] => .ok []
  | n + 1, cs => match bracketed? cs with
    | some (piece, rest) => (setPieces n rest).map (piece :: ·)
    | none => match setByte cs with
      | none => .ok []
      | some (a, '-' :: rest) => match setByte rest with
        | some (b, after) =>
          if b < a then
            .error ("range-endpoints of '" ++ String.ofList (cs.take (cs.length - after.length)) ++
              "' are in reverse collating sequence order")
          else (setPieces n after).map (.bytes (byteRange a b) :: ·)
        | none => .ok [.bytes [a, 45]]
      | some (a, rest) => (setPieces n rest).map (.bytes [a] :: ·)

/-- A set as bytes; what is repeated makes it as long as another one. -/
def setBytes (length : Nat) (pieces : List SetPiece) : Bytes :=
  let fixed : Nat := pieces.foldl (fun n p => match p with
    | .bytes bs => n + bs.length
    | .fill _ => n) 0
  pieces.flatMap fun
    | .bytes bs => bs
    | .fill b => List.replicate (length - fixed) b

def readSet (length : Nat) (text : String) : Except String Bytes :=
  let cs := Bytes.chars (Bytes.ofText text)
  (setPieces (cs.length + 1) cs).map (setBytes length)

/-- Of repetitions of a byte of the set only one is kept. -/
def squeeze (set : UInt8 → Bool) (bs : Bytes) : Bytes :=
  (bs.splitBy fun a b => a == b && set a).filterMap List.head?

/-- A set as a table by the numbers of bytes. -/
def memberTable (set : Bytes) : Array Bool :=
  set.foldl (fun table b => table.setIfInBounds b.toNat true) (Array.replicate 256 false)

def isMember (table : Array Bool) (b : UInt8) : Bool := (table[b.toNat]?).getD false

def imageTable (pairs : List (UInt8 × UInt8)) : Array UInt8 :=
  pairs.reverse.foldl (fun table p => table.setIfInBounds p.1.toNat p.2) (byteRange 0 255).toArray

def tr : Tool :=
  { rules := some {
      plain := "cCdst"
      long := [("complement", 'c'), ("delete", 'd'), ("squeeze-repeats", 's'),
        ("truncate-set1", 't')]
      mixed := false }
    run := fun options s =>
      let isComplement := options.has 'c' || options.has 'C'
      let deletes := options.has 'd'
      let squeezes := options.has 's'
      let second? := options.operands[1]?
      let least := if deletes != squeezes then 1 else 2
      let most := if deletes && !squeezes then 1 else 2
      match options.operands with
      | [] => misused "missing operand" 1 s
      | first :: more =>
        if more.length + 1 < least then
          misused ("missing operand after " ++ inQuotes first ++
            "\nTwo strings must be given when " ++
            (if deletes then "both deleting and squeezing repeats." else "translating.")) 1 s
        else if most < more.length + 1 then
          misused ("extra operand " ++ inQuotes ((more[most - 1]?).getD "") ++
            (if most = 1 && more.length = 1 then
              "\nOnly one string may be given when deleting without squeezing repeats."
              else "")) 1 s
        else
          match readSet 0 first with
          | .error text => complain text 1 s
          | .ok given =>
            let table := memberTable given
            let set := if isComplement then (byteRange 0 255).filter fun b => !isMember table b
              else given
            match readSet set.length (second?.getD "") with
            | .error text => complain text 1 s
            | .ok images =>
              if second?.isSome && images.isEmpty && !deletes then
                complain "when not truncating set1, string2 must be non-empty" 1 s
              else
                let (content, s) := gather [] s
                let inSet := isMember (memberTable set)
                let kept := if deletes then content.filter fun b => !inSet b else content
                let translates := !deletes && second?.isSome
                let set := if options.has 't' then set.take images.length else set
                let padded := images ++
                  List.replicate (set.length - images.length) (images.getLast?.getD 0)
                let image := imageTable (set.zip padded)
                let changed := if translates then kept.map fun b => (image[b.toNat]?).getD b
                  else kept
                let squeezed := if squeezes then
                    squeeze (if second?.isSome then isMember (memberTable images) else inSet)
                      changed
                  else changed
                emit squeezed s }

/-! ### Dumps -/

structure DumpFormat where
  /-- Bytes that are shown together. -/
  size : Nat
  width : Nat
  text : Nat → String

def padded (width : Nat) (fill : Char) (ds : List Char) : String :=
  String.ofList (List.replicate (width - ds.length) fill ++ ds)

/-- Digits that a number of so many bytes may have in a base. -/
def digitCount (base size : Nat) : Nat := (Nat.toDigits base (Nat.pow 256 size - 1)).length

def numberFormat (base : Nat) (signed : Bool) (size : Nat) : DumpFormat :=
  let bound := Nat.pow 256 size
  if signed then
    ⟨size, (Nat.toDigits 10 (bound / 2)).length + 1, fun n =>
      toString (if bound / 2 ≤ n then (n : Int) - bound else n)⟩
  else if base = 10 then ⟨size, digitCount 10 size, fun n => toString n⟩
  else
    let width := digitCount base size
    ⟨size, width, fun n => padded width '0' (Nat.toDigits base n)⟩

def charText (n : Nat) : String :=
  match [(0, "\\0"), (7, "\\a"), (8, "\\b"), (9, "\\t"), (10, "\\n"), (11, "\\v"), (12, "\\f"),
    (13, "\\r")].lookup n with
  | some text => text
  | none =>
    if 32 ≤ n && n < 127 then (Char.ofNat n).toString else padded 3 '0' (Nat.toDigits 8 n)

def controlNames : List String :=
  ["nul", "soh", "stx", "etx", "eot", "enq", "ack", "bel", "bs", "ht", "nl", "vt", "ff", "cr",
    "so", "si", "dle", "dc1", "dc2", "dc3", "dc4", "nak", "syn", "etb", "can", "em", "sub", "esc",
    "fs", "gs", "rs", "us", "sp"]

def nameText (n : Nat) : String :=
  let n := n % 128
  if n = 127 then "del"
  else match controlNames[n]? with
    | some name => name
    | none => (Char.ofNat n).toString

def typeSize? (cs : List Char) : Option (Nat × List Char) :=
  match cs with
  | 'C' :: rest => some (1, rest)
  | 'S' :: rest => some (2, rest)
  | 'I' :: rest => some (4, rest)
  | 'L' :: rest => some (8, rest)
  | cs =>
    let digits := cs.takeWhile Char.isDigit
    if digits.isEmpty then some (4, cs)
    else
      let n := (String.ofList digits).toNat?.getD 0
      if [1, 2, 4, 8].contains n then some (n, cs.drop digits.length) else none

def dumpFormats (budget : Nat) (cs : List Char) : Option (List DumpFormat) :=
  match budget, cs with
  | _, [] => some []
  | 0, _ => none
  | n + 1, 'c' :: rest => (dumpFormats n rest).map (⟨1, 3, charText⟩ :: ·)
  | n + 1, 'a' :: rest => (dumpFormats n rest).map (⟨1, 3, nameText⟩ :: ·)
  | n + 1, c :: rest => do
    let (base, signed) ← [('d', (10, true)), ('u', (10, false)), ('o', (8, false)),
      ('x', (16, false))].lookup c
    let (size, rest) ← typeSize? rest
    return numberFormat base signed size :: (← dumpFormats n rest)

def dumpTypes : List (Char × String) :=
  [('a', "a"), ('b', "o1"), ('c', "c"), ('d', "u2"), ('i', "d4"), ('l', "d8"), ('o', "o2"),
    ('s', "d2"), ('x', "x2")]

/-- A number whose lowest byte comes first. -/
def littleEndian (bs : Bytes) : Nat := bs.foldr (fun b n => n * 256 + b.toNat) 0

def chunks (size : Nat) (budget : Nat) (bs : Bytes) : List Bytes :=
  match budget, bs with
  | 0, _ | _, [] => []
  | n + 1, bs => bs.take size :: chunks size n (bs.drop size)

def dumpRow (f : DumpFormat) (rowSize roomPerRow : Nat) (row : Bytes) : String :=
  let count := rowSize / f.size
  let pad := roomPerRow - f.width * count
  let shown := chunks f.size (row.length + 1) row
  String.join <| (shown.zip (List.range shown.length)).map fun (bytes, k) =>
    let room := pad * (count - k) / count - pad * (count - k - 1) / count + f.width
    padded room ' ' (f.text (littleEndian bytes)).toList

/-- The lines of a dump. Rows that repeat the one before are told by a star. -/
def dumpLines (formats : List DumpFormat) (address : Nat → String) (rowSize room : Nat)
    (verbose : Bool) (place : Nat) (before : Option Bytes) (starred : Bool) :
    List Bytes → List String
  | [] => []
  | row :: rest =>
    let repeated := !verbose && before = some row && !rest.isEmpty && row.length = rowSize
    let next := dumpLines formats address rowSize room verbose (place + row.length) (some row)
      repeated rest
    if repeated then (if starred then next else "*" :: next)
    else
      let lead := address place
      let blank := String.ofList (List.replicate lead.length ' ')
      let texts := formats.map fun f => dumpRow f rowSize room row
      ((texts.take 1).map (lead ++ ·) ++ (texts.drop 1).map (blank ++ ·)) ++ next

def od : Tool :=
  { rules := some {
      plain := "abcdilosxv", valued := "AtNjwS"
      long := [("address-radix", 'A'), ("format", 't'), ("read-bytes", 'N'), ("skip-bytes", 'j'),
        ("output-duplicates", 'v'), ("width", 'w')] }
    run := fun options s =>
      let types := options.given.filterMap fun g =>
        if g.1 = 't' then some g.2 else dumpTypes.lookup g.1
      let types := if types.isEmpty then ["o2"] else types
      match types.mapM fun t => dumpFormats (t.length + 1) t.toList with
      | none =>
        let wrong := types.find? fun t => (dumpFormats (t.length + 1) t.toList).isNone
        complain ("invalid type string " ++ inQuotes (wrong.getD "")) 1 s
      | some formats =>
        let formats := formats.flatten
        let number (c : Char) : Option Nat := (options.value? c).bind size?
        let (content, s) := gather options.operands s
        let skipped := (number 'j').getD 0
        let content := content.drop skipped
        let content := match number 'N' with
          | some n => content.take n
          | none => content
        let rowSize := max 1 ((number 'w').getD 16)
        let address (n : Nat) : String := match options.value? 'A' with
          | some "n" => ""
          | some "d" => padded 7 '0' (Nat.toDigits 10 n)
          | some "x" => padded 6 '0' (Nat.toDigits 16 n)
          | _ => padded 7 '0' (Nat.toDigits 8 n)
        let room := (formats.map fun f => (f.width + 1) * (rowSize / f.size)).foldl max 0
        let rows := chunks rowSize (content.length + 1) content
        let lines :=
          dumpLines formats address rowSize room (options.has 'v') skipped none false rows
        let last := address (skipped + content.length)
        emitLines (if last.isEmpty then lines else lines ++ [last]) s }

/-! ### Encodings -/

def base64Digits : List Char :=
  "ABCDEFGHIJKLMNOPQRSTUVWXYZabcdefghijklmnopqrstuvwxyz0123456789+/".toList

def encodeBase64 : Bytes → List Char
  | a :: b :: c :: rest => digits [a, b, c] 4 ++ encodeBase64 rest
  | [a, b] => digits [a, b, 0] 3 ++ ['=']
  | [a] => digits [a, 0, 0] 2 ++ ['=', '=']
  | [] => []
where
  digits (bs : Bytes) (count : Nat) : List Char :=
    let n := bs.foldl (fun n b => n * 256 + b.toNat) 0
    ([262144, 4096, 64, 1].take count).map fun unit => base64Digits.getD (n / unit % 64) 'A'

/-- The bytes that digits stand for, up to a group that is wrong. -/
def decodeBase64 (budget : Nat) (cs : List Char) : Bytes × Bool :=
  match budget with
  | 0 => ([], true)
  | n + 1 =>
    let group := cs.take 4
    let digits := group.takeWhile base64Digits.contains
    let value := (digits ++ List.replicate (4 - digits.length) 'A').foldl
      (fun n c => n * 64 + base64Digits.idxOf c) 0
    let bytes := [value / 65536, value / 256 % 256, value % 256].map UInt8.ofNat
    if group.isEmpty then ([], true)
    else if digits.length = 4 then
      let (more, good) := decodeBase64 n (cs.drop 4)
      (bytes ++ more, good)
    else
      let good := 2 ≤ digits.length && group.length = 4 && group.drop digits.length =
        List.replicate (4 - digits.length) '='
      (bytes.take (digits.length - 1), good && (cs.drop 4).isEmpty)

def base64 : Tool :=
  { rules := some {
      plain := "di", valued := "w"
      long := [("decode", 'd'), ("wrap", 'w'), ("ignore-garbage", 'i')] }
    run := fun options s =>
      let (content, s) := gather options.operands s
      if options.has 'd' then
        let cs := (Bytes.chars content).filter fun c =>
          c ≠ '\n' && !(options.has 'i' && !base64Digits.contains c && c ≠ '=')
        let (bytes, good) := decodeBase64 (cs.length + 1) cs
        let s := emit bytes s
        if good then s else complain "invalid input" 1 s
      else
        let width := ((options.value? 'w').bind String.toNat?).getD 76
        let bytes := Bytes.ofChars (encodeBase64 content)
        if width = 0 then emit bytes s
        else emit ((chunks width (bytes.length + 1) bytes).flatMap fun row => row ++ [10]) s }

/-! ### Comparing and summing up -/

/-- The first place at which two texts differ, and the line of it; or the end of the shorter. -/
def firstDifference (place line : Nat) : Bytes → Bytes → Nat × Nat × Bool
  | a :: as, b :: bs =>
    if a = b then firstDifference (place + 1) (if a = 10 then line + 1 else line) as bs
    else (place, line, true)
  | _, _ => (place, line, false)

def cmp : Tool :=
  { rules := some { plain := "slb", valued := "n", long := [("silent", 's'), ("quiet", 's')] }
    failure := 2
    run := fun options s =>
      match options.operands with
      | a :: more =>
        let b := more.headD "-"
        match source a s with
        | (.error e, s) => plainFault 2 a e s
        | (.ok first, s) => match source b s with
          | (.error e, s) => plainFault 2 b e s
          | (.ok second, s) =>
            let (place, line, differ) := firstDifference 1 1 first second
            if first = second then s
            else if options.has 's' then s.withStatus 1
            else if differ then
              emitLines [a ++ " " ++ b ++ " differ: char " ++ toString place ++ ", line " ++
                toString line] (s.withStatus 1)
            else
              let short := if first.length < second.length then a else b
              let text := if place = 1 then "EOF on " ++ inQuotes short ++ " which is empty"
                else
                  let atLineEnd := (first.take (place - 1)).getLast? = some 10
                  "EOF on " ++ inQuotes short ++ " after byte " ++ toString (place - 1) ++
                    (if atLineEnd then ", line " else ", in line ") ++
                    toString (if atLineEnd then line - 1 else line)
              complain text 1 s
      | [] => misused "missing operand after 'cmp'" 2 s }

def crcStep (crc : UInt32) (b : UInt8) : UInt32 :=
  (List.range 8).foldl
    (fun c _ => if c &&& 0x80000000 ≠ 0 then (c <<< 1) ^^^ 0x04C11DB7 else c <<< 1)
    (crc ^^^ (b.toUInt32 <<< 24))

/-- The bytes of a length, lowest first, as few as it takes. -/
def lengthBytes (budget n : Nat) : Bytes :=
  match budget with
  | 0 => []
  | k + 1 => if n = 0 then [] else UInt8.ofNat (n % 256) :: lengthBytes k (n / 256)

def cksum : Tool :=
  { rules := some {}
    run := fun options s =>
      eachSource options.operands (fun name content s =>
        let crc := ~~~ ((content ++ lengthBytes 8 content.length).foldl crcStep 0)
        emitLines [toString crc.toNat ++ " " ++ toString content.length ++
          (if name = "-" then "" else " " ++ name)] s) s }

end BuildPipeline.Shell.Tools
