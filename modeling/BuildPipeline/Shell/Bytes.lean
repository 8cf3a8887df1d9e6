import BuildPipeline.Text.Lossy

/-!
Texts as programs see them: bytes, each of which counts as a character of its own.
-/
namespace BuildPipeline.Shell

abbrev Bytes := List UInt8

namespace Bytes

def ofText (s : String) : Bytes := s.toUTF8.toList

def chars (bs : Bytes) : List Char := bs.map fun b => Char.ofNat b.toNat

def ofChars (cs : List Char) : Bytes := cs.map fun c => UInt8.ofNat c.toNat

def lineFeed : UInt8 := 10

def space : UInt8 := 32

def isBlank (b : UInt8) : Bool := b = 32 || (9 ≤ b && b ≤ 13)

/-- Lines, each with its line feed if it has one. -/
def lines (bs : Bytes) : List Bytes :=
  bs.foldr
    (fun b lines =>
      if b = 10 then [b] :: lines
      else match lines with
        | [] => [[b]]
        | line :: more => (b :: line) :: more)
    []

def body (line : Bytes) : Bytes := if line.getLast? = some 10 then line.dropLast else line

def ended (line : Bytes) : Bytes := if line.getLast? = some 10 then line else line ++ [10]

/-- The pieces between separators, empty ones too. -/
def split (separator : UInt8) (bs : Bytes) : List Bytes :=
  bs.foldr
    (fun b pieces =>
      if b = separator then [] :: pieces
      else match pieces with
        | [] => [[b]]
        | piece :: more => (b :: piece) :: more)
    [[]]

def words (bs : Bytes) : List Bytes :=
  (bs.splitBy fun a b => isBlank a == isBlank b).filter fun w => !(w.all isBlank)

def alignRight (width : Nat) (bs : Bytes) : Bytes := List.replicate (width - bs.length) 32 ++ bs

end Bytes

def total (numbers : List Nat) : Nat := numbers.foldl (· + ·) 0

end BuildPipeline.Shell
