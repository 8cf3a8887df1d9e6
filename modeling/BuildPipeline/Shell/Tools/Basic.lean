import BuildPipeline.Shell.Options
import BuildPipeline.Shell.State

/-!
Programs that commands start. Each reads its arguments, files and standard input, writes, and leaves
a status. Faults are told in the name of the state's speaker, which is how the program was called.
-/
namespace BuildPipeline.Shell

structure Tool where
  /-- The options it knows; a program without rules takes its arguments as they are. -/
  rules : Option OptionRules := none
  /-- What is made of the arguments before options are read. -/
  prepare : List String → List String := id
  /-- The status of a program that was called wrongly. -/
  failure : Nat := 1
  run : Options → State → State

namespace Tools

def ownName (s : State) : String := s.speaker.getD "sh"

/-- A complaint of a program, which then has failed. -/
def complain (text : String) (status : Nat) (s : State) : State :=
  (s.say 2 (ownName s ++ ": " ++ text ++ "\n")).withStatus status

def misused (text : String) (status : Nat) (s : State) : State :=
  complain (text ++ "\nTry '" ++ ownName s ++ " --help' for more information.") status s

def optionFaultText : OptionFault → String
  | .unknown c => "invalid option -- '" ++ c.toString ++ "'"
  | .missingValue c => "option requires an argument -- '" ++ c.toString ++ "'"
  | .unknownName a => "unrecognized option '" ++ a ++ "'"
  | .missingValueOf a => "option '" ++ a ++ "' requires an argument"
  | .needlessValue a => "option '" ++ a ++ "' doesn't allow an argument"

end Tools

def Tool.start (t : Tool) (arguments : List String) (s : State) : State :=
  let arguments := t.prepare arguments
  match t.rules with
  | none => t.run { operands := arguments } (s.withStatus 0)
  | some rules => match Options.read rules arguments with
    | .ok options => t.run options (s.withStatus 0)
    | .error fault => Tools.misused (Tools.optionFaultText fault) t.failure s

namespace Tools

def faultText : IoError → String
  | .notFound => "No such file or directory"
  | .alreadyExists => "File exists"
  | .notFolder => "Not a directory"
  | .isFolder => "Is a directory"
  | .tooManyLinks => "Too many levels of symbolic links"
  | .nameTooLong => "File name too long"
  | .accessDenied => "Permission denied"
  | .noSpace => "No space left on device"
  | .argumentsTooLong => "Argument list too long"
  | e => e.message

def writeFaultText : WriteFault → String
  | .badDescriptor => "Bad file descriptor"
  | .noSpace => "No space left on device"

/-- Writes, and has failed with this status if that cannot be done. -/
def emitOr (failure : Nat) (bytes : Bytes) (s : State) : State :=
  if bytes.isEmpty then s
  else match s.write 1 bytes.toByteArray with
    | (s, none) => s
    | (s, some fault) => complain ("write error: " ++ writeFaultText fault) failure s

def emit (bytes : Bytes) (s : State) : State := emitOr 1 bytes s

def emitText (text : String) (s : State) : State := emit (Bytes.ofText text) s

def emitLines (lines : List String) (s : State) : State :=
  emitText (String.join (lines.map (· ++ "\n"))) s

/-- A name in quotes, single ones if possible. -/
def inQuotes (name : String) : String :=
  if name.toList.contains '\'' then "\"" ++ name ++ "\"" else "'" ++ name ++ "'"

def backQuoted (text : String) : String := (Char.ofNat 96).toString ++ text ++ "'"

/-- A name in quotes if it could not be told from the text around it. -/
def quoted (name : String) : String :=
  let plain (c : Char) : Bool := c.isAlphanum || "-_./+,@%:=~".toList.contains c || 127 < c.toNat
  if !name.isEmpty && name.toList.all plain then name
  else inQuotes name

/-- The descriptor that a path leads to, if it is the name of one. -/
def descriptor? (name : String) (s : State) : Option Nat :=
  match s.files.stat ⟨name⟩ with
  | .ok (.device (.descriptor n)) => some n
  | _ => none

/-- The content of a file, or of standard input for a dash. -/
def source (name : String) (s : State) : Except IoError Bytes × State :=
  if name = "-" || descriptor? name s = some 0 then
    match s.stream? 0 with
    | some (.input ..) =>
      let (content, s) := s.readInput
      (.ok content, s)
    | some .folder => (.error .isFolder, s)
    | _ => (.error (.other "Bad file descriptor"), s)
  else ((s.files.readBytes ⟨name⟩).map ByteArray.toList, s)

/-- Gives a file new content, or adds to what it holds. -/
def store (name : String) (append : Bool) (bytes : Bytes) (s : State) : Except IoError State :=
  match descriptor? name s with
  | some n => .ok (s.write n bytes.toByteArray).1
  | none =>
    let before : ByteArray := if append then
        match s.files.readBytes ⟨name⟩ with
        | .ok old => old
        | .error _ => .empty
      else .empty
    match s.files.writeBytes ⟨name⟩ (before ++ bytes.toByteArray) with
    | (.ok (), files) => .ok { s with files := files }
    | (.error e, _) => .error e

/-- Goes through the named files, or standard input, and complains about those that cannot be
read. -/
def eachSourceOr (fault : String → IoError → State → State) (names : List String)
    (use : String → Bytes → State → State) (s : State) : State :=
  (if names.isEmpty then ["-"] else names).foldl
    (fun s name => match source name s with
      | (.ok content, s) => use name content s
      | (.error e, s) => fault name e s)
    s

def plainFault (status : Nat) (name : String) (e : IoError) (s : State) : State :=
  complain (quoted name ++ ": " ++ faultText e) status s

def eachSource (names : List String) (use : String → Bytes → State → State) (s : State) :
    State :=
  eachSourceOr (plainFault 1) names use s

def gather (names : List String) (s : State) : Bytes × State :=
  (if names.isEmpty then ["-"] else names).foldl
    (fun (r : Bytes × State) name => match source name r.2 with
      | (.ok content, s) => (r.1 ++ content, s)
      | (.error e, s) => (r.1, plainFault 1 name e s))
    ([], s)

def eachOperand (operands : List String) (act : String → State → State) (s : State) : State :=
  operands.foldl (fun s p => act p s) s

def filter (rules : OptionRules) (change : Options → Bytes → Bytes) : Tool :=
  { rules := some rules
    run := fun options s =>
      let (content, s) := gather options.operands s
      emit (change options content) s }

def size? (text : String) : Option Nat :=
  let digits := text.toList.takeWhile Char.isDigit
  let unit? : Option Nat := match String.ofList (text.toList.drop digits.length) with
    | "" => some 1
    | "b" => some 512
    | "k" | "K" | "KiB" => some 1024
    | "kB" | "KB" => some 1000
    | "m" | "M" | "MiB" => some 1048576
    | "MB" => some 1000000
    | "G" | "GiB" => some 1073741824
    | _ => none
  if digits.isEmpty then none
  else unit?.bind fun u => (String.ofList digits).toNat?.map (· * u)

end Tools
end BuildPipeline.Shell
