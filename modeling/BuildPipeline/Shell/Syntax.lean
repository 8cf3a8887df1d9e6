/-!
Command language: what a command text says once it is read. Words keep apart what was quoted,
since only unquoted results are split into fields and matched against file names.
-/
namespace BuildPipeline.Shell

inductive Opening
  | read
  /-- Empties the file; what holds something may be protected from that, unless it is `forced`. -/
  | write (forced : Bool)
  | append
  | readWrite
  deriving DecidableEq

inductive Side
  | front
  | back
  deriving DecidableEq

mutual
inductive Part
  | text (quoted : Bool) (s : String)
  | parameter (quoted : Bool) (name : String) (use : Use)
  /-- What a command prints. -/
  | output (quoted : Bool) (command : Command)
  /-- The value of a calculation. -/
  | calculation (quoted : Bool) (word : List Part)

/-- What becomes of a parameter. Where `blank` holds, an empty value counts as none. -/
inductive Use
  | value
  | length
  | fallback (blank : Bool) (word : List Part)
  | assign (blank : Bool) (word : List Part)
  | replace (blank : Bool) (word : List Part)
  | demand (blank : Bool) (word : List Part)
  /-- The value without the shortest or longest match of a pattern at one end. -/
  | strip (side : Side) (longest : Bool) (pattern : List Part)

inductive Redirection
  | file (descriptor : Nat) (opening : Opening) (word : List Part)
  /-- Makes a descriptor lead where another one leads, or closes it. -/
  | duplicate (descriptor : Nat) (word : List Part)
  /-- Lines of the command text itself are to be read. -/
  | here (descriptor : Nat) (word : List Part)

inductive Command
  | nothing
  /-- Assignments, words and redirections, and the line it stands on. -/
  | simple (line : Nat) (assignments : List (String × List Part)) (words : List (List Part))
      (redirections : List Redirection)
  | redirected (line : Nat) (command : Command) (redirections : List Redirection)
  | subshell (command : Command)
  | pipeline (commands : List Command)
  | negated (command : Command)
  | both (first second : Command)
  | either (first second : Command)
  | sequence (first second : Command)
  | background (command : Command)
  | conditional (test yes no : Command)
  /-- Repeats the body as long as the test's success is `goOn`. -/
  | loop (goOn : Bool) (test body : Command)
  | each (line : Nat) (name : String) (words : List (List Part)) (body : Command)
  /-- Runs the first command one of whose patterns matches the word. -/
  | choice (line : Nat) (word : List Part) (branches : List (List (List Part) × Command))
  | definition (name : String) (body : Command)
end

instance : Inhabited Command := ⟨.nothing⟩

abbrev Word := List Part

/-- Whether the word of a use is a pattern, in which quotes around the parameter do not count. -/
def Use.isPattern : Use → Bool
  | .strip .. => true
  | _ => false

inductive SyntaxFault
  | unterminatedQuote
  | unterminatedBackQuote
  | missingBrace
  | badSubstitution
  | missingParentheses
  | badLoopVariable
  | badFunctionName
  /-- A token where it may not stand, and what should stand there. -/
  | unexpected (token : String) (expecting : Option String)
  deriving DecidableEq

def SyntaxFault.message : SyntaxFault → String
  | .unterminatedQuote => "Unterminated quoted string"
  | .unterminatedBackQuote => "EOF in backquote substitution"
  | .missingBrace => "Missing '\x7d'"
  | .badSubstitution => "Bad substitution"
  | .missingParentheses => "Missing '))'"
  | .badLoopVariable => "Bad for loop variable"
  | .badFunctionName => "Bad function name"
  | .unexpected token expecting =>
    token ++ " unexpected" ++
    (match expecting with
      | some e => " (expecting " ++ e ++ ")"
      | none => "")

inductive Reading
  /-- Nothing that could be run. -/
  | done
  /-- The commands of its first line, and what follows it. -/
  | line (command : Command) (rest : List Char)
  /-- A fault, and the line that it is in. -/
  | fault (line : Nat) (fault : SyntaxFault)

end BuildPipeline.Shell
