/-!
Bytes read as text whatever they are: bytes that make up no character are shown as one replacement
character for each longest run that begins a character.
-/
namespace BuildPipeline.Text

/-- The character shown for bytes that make up none. -/
def replacement : Char := Char.ofNat 0xFFFD

def within (range : Nat × Nat) (b : UInt8) : Bool := range.1 ≤ b.toNat && b.toNat ≤ range.2

def continuation : Nat × Nat := (0x80, 0xBF)

/-- The ranges of the bytes that have to follow a first byte, if it can be one. Ranges are narrower
where a shorter form, a surrogate or a number beyond the last character would come out. -/
def following? (first : Nat) : Option (List (Nat × Nat)) :=
  if first < 0x80 then some []
  else if first < 0xC2 then none
  else if first < 0xE0 then some [continuation]
  else if first = 0xE0 then some [(0xA0, 0xBF), continuation]
  else if first = 0xED then some [(0x80, 0x9F), continuation]
  else if first < 0xF0 then some [continuation, continuation]
  else if first = 0xF0 then some [(0x90, 0xBF), continuation, continuation]
  else if first < 0xF4 then some [continuation, continuation, continuation]
  else if first = 0xF4 then some [(0x80, 0x8F), continuation, continuation]
  else none

def countFollowing : List (Nat × Nat) → List UInt8 → Nat
  | range :: ranges, b :: rest => if within range b then countFollowing ranges rest + 1 else 0
  | _, _ => 0

def joinBytes (first : Nat) (more : List UInt8) : Char :=
  let high := match more.length with
    | 0 => first
    | 1 => first % 0x20
    | 2 => first % 0x10
    | _ => first % 0x08
  Char.ofNat (more.foldl (fun n b => n * 0x40 + b.toNat % 0x40) high)

def decodeBytes (bytes : List UInt8) : List Char :=
  match bytes with
  | [] => []
  | first :: rest =>
    match following? first.toNat with
    | none => replacement :: decodeBytes rest
    | some ranges =>
      let count := countFollowing ranges rest
      let c := if count = ranges.length then joinBytes first.toNat (rest.take count)
        else replacement
      c :: decodeBytes (rest.drop count)
  termination_by bytes.length
  decreasing_by all_goals (simp only [List.length_cons, List.length_drop]; omega)

def decodeLossy (bytes : ByteArray) : String := String.ofList (decodeBytes bytes.toList)

end BuildPipeline.Text
