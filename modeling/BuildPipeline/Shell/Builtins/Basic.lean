import BuildPipeline.Shell.Lexical
import BuildPipeline.Shell.Options
import BuildPipeline.Shell.State

/-!
Commands that the shell carries out itself, since they change its own state: what they have in
common.
-/
namespace BuildPipeline.Shell

abbrev Builtin := List String → State → State

namespace Builtins

/-- The largest number that counts and statuses may have. -/
def largestNumber : Nat := 2147483647

def number? (text : String) : Option Nat :=
  if !text.isEmpty && text.toList.all Char.isDigit then
    text.toNat?.filter fun n => n ≤ largestNumber
  else none

def illegalNumber (text : String) (s : State) : State := s.abort ("Illegal number: " ++ text)

/-- Writes, or says that it cannot and has failed. -/
def emit (bytes : Bytes) (s : State) : State :=
  if bytes.isEmpty then s
  else match s.write 1 bytes.toByteArray with
    | (s, none) => s
    | (s, some _) =>
      (s.complain (s.speaker.getD "" ++ ": I/O error")).withStatus (s.status ||| 1)

def emitText (text : String) (s : State) : State := emit (Bytes.ofText text) s

def constant (status : Nat) : Builtin := fun _ s => s.withStatus status

/-- Goes on with the options of a command, which come first. -/
def withOptions (plain valued : String) (act : Options → State → State) : Builtin :=
  fun arguments s =>
    match Options.read { plain := plain, valued := valued, mixed := false } arguments with
    | .ok options => act options s
    | .error (.missingValue c) => s.abort ("No arg for -" ++ c.toString ++ " option")
    | .error (.unknown c) => s.abort ("Illegal option -" ++ c.toString)
    | .error _ => s.abort "Illegal option --"

def isName (text : String) : Bool := Reader.isName text.toList

def splitAssignment (a : String) : String × Option String :=
  let name := a.toList.takeWhile (· ≠ '=')
  match a.toList.drop name.length with
  | _ :: value => (String.ofList name, some (String.ofList value))
  | [] => (a, none)

/-- Does something to each argument until the shell is stopped. -/
def eachArgument (act : String → State → State) (arguments : List String) (s : State) : State :=
  arguments.foldl (fun s a => if s.isRunning then act a s else s) s

/-- Pieces of a text in quotes: runs of single quotes stand between double ones. -/
def quotedPieces (budget : Nat) (cs : List Char) : List Char :=
  match budget with
  | 0 => []
  | n + 1 =>
    let plain := cs.takeWhile (· ≠ '\'')
    let rest := cs.drop plain.length
    let quotes := rest.takeWhile (· = '\'')
    let rest := rest.drop quotes.length
    '\'' :: plain ++ '\'' ::
      (if quotes.isEmpty then [] else
        '"' :: quotes ++ '"' :: (if rest.isEmpty then [] else quotedPieces n rest))

def quoted (text : String) : String := String.ofList (quotedPieces (text.length + 1) text.toList)

end Builtins
end BuildPipeline.Shell
