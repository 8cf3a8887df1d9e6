/-!
Shortening of long command output to a number of characters, with a marker that says how
many were left out. Lengths are counted in characters, and the text is cut at bytes.
-/
namespace BuildPipeline.Text

inductive Truncation
  /-- The first 40 percent and the last 60 percent of the room. -/
  | headTail
  | tail
  deriving DecidableEq, Repr

/-- How many bytes there are before a character, given by its index, or in all if there are not so
many characters. -/
def charOffset : List Char → Nat → Nat
  | c :: rest, n + 1 => c.utf8Size + charOffset rest n
  | _, _ => 0

/-- The byte at which a character begins, or the end of the text. -/
def cut (text : String) (n : Nat) : String.Pos.Raw := ⟨charOffset text.toList n⟩

def marker (removed : Nat) : String :=
  "[... " ++ toString removed ++ " characters removed ...]\n"

/-- The text itself if it has at most `room` characters, else its kept parts around a marker. -/
def truncate (mode : Truncation) (room : Nat) (text : String) : String :=
  let total := text.length
  if total ≤ room then text
  else match mode with
    | .headTail =>
      let headSize := room * 40 / 100
      let tailSize := room - headSize
      let removed := total - headSize - tailSize
      let head := String.Pos.Raw.extract text 0 (cut text headSize)
      let tail := String.Pos.Raw.extract text (cut text (total - tailSize)) text.rawEndPos
      head ++ "\n" ++ marker removed ++ tail
    | .tail =>
      let removed := total - room
      let tail := String.Pos.Raw.extract text (cut text removed) text.rawEndPos
      marker removed ++ tail

end BuildPipeline.Text
