import BuildPipeline.Path
import BuildPipeline.SortedMap

/-!
What the command line asks for. Arguments are read from left to right; the first one that asks for
help or the version, or that makes no sense, ends the reading.
-/
namespace BuildPipeline.CommandLine

structure Overrides where
  workingDir : Option Path := none
  reportsDir : Option Path := none
  projectName : Option String := none
  strict : Bool := false
  deriving DecidableEq

structure RunRequest where
  settingsFile : Option Path := none
  overrides : Overrides := {}
  revision : Option String := none
  buildNumber : Option String := none
  /-- Every command counts as an empty success and none is carried out. -/
  rehearse : Bool := false
  deriving DecidableEq

inductive Request
  | run (r : RunRequest)
  | validate (settingsFile : Option Path)
  | summarize (report : Path)
  deriving DecidableEq

inductive Misuse
  | unknownOption (text : String)
  | unknownCommand (text : String)
  | unexpectedOperand (text : String)
  | unexpectedValue (option : String)
  | missingValue (option : String)
  | repeated (option : String)
  | missingCommand
  | missingReport
  deriving DecidableEq

def Misuse.message : Misuse → String
  | .unknownOption text | .unexpectedOperand text => "unexpected argument '" ++ text ++ "' found"
  | .unknownCommand text => "unrecognized subcommand '" ++ text ++ "'"
  | .unexpectedValue option => "unexpected value for '--" ++ option ++ "' found"
  | .missingValue option =>
    "a value is required for '--" ++ option ++ "' but none was supplied"
  | .repeated option => "the argument '--" ++ option ++ "' cannot be used multiple times"
  | .missingCommand => "a subcommand is required"
  | .missingReport => "the path of a report is required"

inductive Halt
  | help
  | version
  | misuse (m : Misuse)
  deriving DecidableEq

/-! ### Names -/

inductive Command
  | run
  | validateConfig
  | showReport
  | help
  deriving DecidableEq

namespace Command

def name : Command → String
  | .run => "run"
  | .validateConfig => "validate-config"
  | .showReport => "show"
  | .help => "help"

def all : List Command := [.run, .validateConfig, .showReport, .help]

def ofName? (s : String) : Option Command := all.find? (·.name = s)

end Command

inductive Switch
  | verbose
  | strict
  | rehearse
  deriving DecidableEq

inductive Setting
  | config
  | workdir
  | reports
  | project
  | revision
  | buildNumber
  deriving DecidableEq

/-- A path must not be empty. -/
def Setting.isPath : Setting → Bool
  | .config | .workdir | .reports => true
  | .project | .revision | .buildNumber => false

inductive Meaning
  | help
  | version
  | switch (s : Switch)
  | setting (s : Setting)
  deriving DecidableEq

structure Flag where
  long : String
  short : Option Char := none
  meaning : Meaning

namespace Flag

def help : Flag := ⟨"help", some 'h', .help⟩

def version : Flag := ⟨"version", some 'V', .version⟩

/-- Accepted everywhere; it asks for logging and changes nothing else. -/
def verbose : Flag := ⟨"verbose", some 'v', .switch .verbose⟩

def config : Flag := ⟨"config", some 'c', .setting .config⟩

/-- The options that may follow a command, or stand before any. -/
def accepted : Option Command → List Flag
  | none => [verbose, help, version]
  | some .run =>
    [config, ⟨"workdir", some 'w', .setting .workdir⟩, ⟨"reports", some 'r', .setting .reports⟩,
      ⟨"project", none, .setting .project⟩, ⟨"revision", none, .setting .revision⟩,
      ⟨"build-number", none, .setting .buildNumber⟩, ⟨"strict", none, .switch .strict⟩,
      ⟨"rehearse", none, .switch .rehearse⟩, verbose, help]
  | some .validateConfig => [config, verbose, help]
  | some .showReport => [verbose, help]
  | some .help => []

end Flag

/-! ### Reading -/

/-- Arguments read so far. A command starts with no options of its own. -/
structure Scan where
  command : Option Command := none
  switches : List Switch := []
  settings : List (Setting × String) := []
  operand : Option String := none
  pending : Option Flag := none
  /-- Whether two dashes have ended the options. -/
  operandsOnly : Bool := false

namespace Scan

def misuse {α : Type} (m : Misuse) : Except Halt α := .error (.misuse m)

def take (p : Scan) (f : Flag) (attached : Option String) : Except Halt Scan :=
  match f.meaning, attached with
  | .setting s, some value =>
    if p.settings.any (·.1 = s) then misuse (.repeated f.long)
    else if s.isPath && value.isEmpty then misuse (.missingValue f.long)
    else .ok { p with settings := p.settings ++ [(s, value)], pending := none }
  | .setting _, none => .ok { p with pending := some f }
  | _, some _ => misuse (.unexpectedValue f.long)
  | .help, none => .error .help
  | .version, none => .error .version
  | .switch s, none =>
    if p.switches.contains s then misuse (.repeated f.long)
    else .ok { p with switches := p.switches ++ [s] }

def takeLong (p : Scan) (text : List Char) : Except Halt Scan :=
  let name := String.ofList (text.takeWhile (· ≠ '='))
  let attached := match text.dropWhile (· ≠ '=') with
    | [] => none
    | _ :: value => some (String.ofList value)
  match (Flag.accepted p.command).find? (·.long = name) with
  | some f => p.take f attached
  | none => misuse (.unknownOption ("--" ++ name))

/-- Takes options by their letters; what follows the letter of one with a value is its value. -/
def takeLetters (p : Scan) : List Char → Except Halt Scan
  | [] => .ok p
  | c :: rest =>
    match (Flag.accepted p.command).find? (·.short = some c) with
    | none => misuse (.unknownOption (String.ofList ['-', c]))
    | some f => match f.meaning, rest with
      | .setting _, [] => p.take f none
      | .setting _, '=' :: value => p.take f (some (String.ofList value))
      | .setting _, value => p.take f (some (String.ofList value))
      | _, rest => match p.take f none with
        | .ok p => takeLetters p rest
        | .error h => .error h

def takeOperand (p : Scan) (a : String) : Except Halt Scan :=
  match p.command with
  | none =>
    if p.operandsOnly then misuse (.unexpectedOperand a)
    else match Command.ofName? a with
      | some c => .ok { command := some c }
      | none => misuse (.unknownCommand a)
  | some .showReport =>
    if p.operand.isSome then misuse (.unexpectedOperand a)
    else if a.isEmpty then misuse .missingReport
    else .ok { p with operand := some a }
  | some .help =>
    if p.operand.isSome || (Command.ofName? a).isNone then misuse (.unknownCommand a)
    else .ok { p with operand := some a }
  | some _ => misuse (.unexpectedOperand a)

/-- Takes the next argument. A single dash is an operand or a value. -/
def step (p : Scan) (a : String) : Except Halt Scan :=
  if p.operandsOnly || p.command = some .help then p.takeOperand a
  else match p.pending, a.toList with
    | some f, '-' :: _ :: _ => misuse (.missingValue f.long)
    | some f, _ => p.take f (some a)
    | none, ['-', '-'] => .ok { p with operandsOnly := true }
    | none, '-' :: '-' :: text => p.takeLong text
    | none, '-' :: c :: rest => p.takeLetters (c :: rest)
    | none, _ => p.takeOperand a

def value? (p : Scan) (s : Setting) : Option String := p.settings.lookup s

def path? (p : Scan) (s : Setting) : Option Path := (p.value? s).map Path.mk

/-- A run as it is asked for. Revision and build number may also come from the environment. -/
def runRequest (environment : SortedMap String) (p : Scan) : RunRequest where
  settingsFile := p.path? .config
  overrides := {
    workingDir := p.path? .workdir
    reportsDir := p.path? .reports
    projectName := p.value? .project
    strict := p.switches.contains .strict }
  revision := (p.value? .revision).or (environment.get? "CADENCE_REVISION")
  buildNumber := (p.value? .buildNumber).or (environment.get? "BUILD_NUMBER")
  rehearse := p.switches.contains .rehearse

def finish (environment : SortedMap String) (p : Scan) : Except Halt Request :=
  match p.pending, p.command, p.operand with
  | some f, _, _ => misuse (.missingValue f.long)
  | none, none, _ => misuse .missingCommand
  | none, some .run, _ => .ok (.run (p.runRequest environment))
  | none, some .validateConfig, _ => .ok (.validate (p.path? .config))
  | none, some .showReport, some report => .ok (.summarize ⟨report⟩)
  | none, some .showReport, none => misuse .missingReport
  | none, some .help, _ => .error .help

end Scan

def Request.read (environment : SortedMap String) (arguments : List String) :
    Except Halt Request :=
  match arguments.foldlM Scan.step {} with
  | .ok p => p.finish environment
  | .error h => .error h

end BuildPipeline.CommandLine
