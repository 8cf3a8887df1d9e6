import BuildPipeline.Shell.Builtins.Basic
import BuildPipeline.Shell.Pattern

/-!
The command that reads a line into variables.
-/
namespace BuildPipeline.Shell.Builtins

/-- A line of bytes without its line feed, whether it had one, and what follows; a backslash joins
lines and quotes the next byte. -/
def readLine (raw : Bool) (bytes : Bytes) : List (Bool × UInt8) × Bool × Bytes :=
  match bytes with
  | [] => ([], false, [])
  | 10 :: rest => ([], true, rest)
  | 92 :: b :: rest =>
    if raw then
      let (line, ended, rest) := readLine raw (b :: rest)
      ((false, 92) :: line, ended, rest)
    else if b = 10 then readLine raw rest
    else
      let (line, ended, rest) := readLine raw rest
      ((true, b) :: line, ended, rest)
  | b :: rest =>
    let (line, ended, rest) := readLine raw rest
    ((false, b) :: line, ended, rest)

/-- The characters of a line; those that were quoted have been so byte by byte. -/
def lineField (line : List (Bool × UInt8)) : Field :=
  let runs := line.splitBy fun a b => a.1 == b.1
  runs.flatMap fun run =>
    let quoted := run.head?.any (·.1)
    ((Text.decodeBytes (run.map (·.2))).filter (· ≠ Char.ofNat 0)).map fun c => (quoted, c)

section
variable (separators : List Char)

def isSeparator (x : Bool × Char) : Bool := !x.1 && separators.contains x.2

/-- A separator of which several count as one. -/
def isLooseSeparator (x : Bool × Char) : Bool :=
  isSeparator separators x && (x.2 = ' ' || x.2 = '\t' || x.2 = '\n')

def trimBack (f : Field) : Field := (f.reverse.dropWhile (isLooseSeparator separators)).reverse

/-- The value of the last variable: all that is left, but for a separator that ends a single
piece. -/
def lastValue (f : Field) : Field :=
  let f := trimBack separators f
  match f.getLast? with
  | some x =>
    let before := trimBack separators f.dropLast
    if isSeparator separators x && !before.any (isSeparator separators) then before else f
  | none => f

/-- Values for names: one piece each, and for the last one all that is left. -/
def distribute : List String → Field → List (String × String)
  | [], _ => []
  | [name], f =>
    [(name, Field.text (lastValue separators (f.dropWhile (isLooseSeparator separators))))]
  | name :: more, f =>
    let f := f.dropWhile (isLooseSeparator separators)
    let piece := f.takeWhile fun x => !isSeparator separators x
    let rest := (f.drop piece.length).dropWhile (isLooseSeparator separators)
    let rest := match rest with
      | x :: after => if isSeparator separators x then after else rest
      | [] => []
    (name, Field.text piece) :: distribute more rest

end

def read : Builtin := withOptions "r" "p" fun options s =>
  let names := options.operands
  if names.isEmpty then s.abort "arg count"
  else
    let (line, ended, rest) := readLine (options.has 'r') (s.input?.getD [])
    let values := distribute s.separators names (lineField line)
    values.foldl
      (fun s v =>
        if !s.isRunning then s
        else if isName v.1 then s.store v.1 v.2
        else s.abort (v.1 ++ ": bad variable name"))
      ((s.leaveInput rest).withStatus (if ended then 0 else 1))

end BuildPipeline.Shell.Builtins
