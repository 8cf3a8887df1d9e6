/-!
Lines of a text: ended by a line feed or by the end of the text, a carriage return before
the line feed belonging to the ending.
-/
namespace BuildPipeline.Text

/-- Splits after every line feed; each piece comes with whether a line feed ended it. -/
def linePieces (text : List Char) : List (List Char × Bool) :=
  text.foldr
    (fun c pieces =>
      if c = '\n' then ([], true) :: pieces
      else match pieces with
        | [] => [([c], false)]
        | (piece, ended) :: more => (c :: piece, ended) :: more)
    []

def withoutReturn (piece : List Char × Bool) : List Char :=
  if piece.2 && piece.1.getLast? == some '\r' then piece.1.dropLast else piece.1

def lines (text : List Char) : List (List Char) := (linePieces text).map withoutReturn

end BuildPipeline.Text
