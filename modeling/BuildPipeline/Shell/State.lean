import BuildPipeline.FileSystem.Operations
import BuildPipeline.Shell.Bytes
import BuildPipeline.Shell.Pipe
import BuildPipeline.Shell.Signal
import BuildPipeline.Shell.Syntax
import BuildPipeline.SortedMap

/-!
What a running shell holds: files, variables and functions, where its descriptors lead, what it has
written, and how much of its time has passed.
-/
namespace BuildPipeline.Shell

inductive Stream
  | stdout
  | stderr
  /-- One of the pipes that are being written. -/
  | pipe (index : Nat)
  /-- A file from a place on; what is appended goes to its end. -/
  | file (names : List String) (append : Bool)
  /-- One of the inputs that are being read, which may be the content of a file. -/
  | input (index : Nat) (ofFile : Bool := false)
  /-- A folder, of which nothing can be read. -/
  | folder
  deriving DecidableEq

inductive WriteFault
  | badDescriptor
  | noSpace
  deriving DecidableEq

structure Variable where
  /-- A variable that is only marked has no value yet. -/
  value : Option String
  /-- Whether started programs see it. -/
  exported : Bool := false
  /-- Whether it can no longer be changed. -/
  fixed : Bool := false
  deriving DecidableEq

inductive Fate
  | running
  | exited
  /-- Stopped by a fault; a shell that meets one ends, but not every command takes its shell along.
  -/
  | failed
  /-- Ended by the signal of this number. -/
  | killed (signal : Nat)
  /-- Ended since the time limit has passed. -/
  | late
  /-- A function is being left. -/
  | returning
  /-- Loops are being left, the last of them perhaps to go on with its next round. -/
  | leaving (loops : Nat) (again : Bool)
  deriving DecidableEq

/-- A command in the background. It is carried out when it is started, as far as its effects go; its
end comes later. -/
structure Job where
  number : Nat
  process : Nat
  /-- When it is done, and what it comes to. -/
  finish : Nat
  status : Nat
  /-- The signal that ends it. -/
  signal : Option Nat := none
  /-- Whether somebody waited for it. -/
  awaited : Bool := false
  deriving DecidableEq

structure State where
  files : FileSystem
  bindings : SortedMap Variable
  functions : SortedMap Command := .empty
  aliases : SortedMap String := .empty
  name : String := "sh"
  /-- The line of the command text that is being carried out. -/
  line : Nat := 1
  /-- The command of the shell in whose name faults are told. -/
  speaker : Option String := none
  /-- Whether nothing follows the command at hand, which then takes the shell's place. -/
  isLast : Bool := false
  /-- What the shell or a function was called with. -/
  arguments : List String := []
  /-- For each function that is being carried out, the variables to bring back after it. -/
  frames : List (List (String × Option Variable)) := []
  streams : List (Nat × Stream) := [(0, .input 0), (1, .stdout), (2, .stderr)]
  /-- What is still to be read. -/
  inputs : List Bytes := [[]]
  stdout : Journal := .empty
  stderr : Journal := .empty
  pipes : List Pipe := []
  /-- Milliseconds. -/
  elapsed : Nat := 0
  limit : Nat
  /-- Whether the time limit has passed and all that runs was asked to end. -/
  overdue : Bool := false
  /-- The process that the commands at hand are part of; 0 is the shell itself. -/
  process : Nat := 0
  /-- Whether this is a shell of its own and not a part of one. -/
  isMain : Bool := true
  /-- Commands in the background, the last one first. -/
  jobs : List Job := []
  /-- How many commands have been put into the background. -/
  launched : Nat := 0
  /-- The process of the last command that was put into the background. -/
  lastProcess : Option Nat := none
  /-- Signals that others send to the shell, with the moments at which they do. -/
  posted : List (Nat × String) := []
  status : Nat := 0
  /-- The status of the last command whose output was put into a word. -/
  substituted : Option Nat := none
  /-- The letters of the options that are on. -/
  options : List Char := []
  /-- Permissions that new files do not get. -/
  mask : Nat := 18
  /-- Which argument is read next for options, and how far the one before it has been read. -/
  optionIndex : Nat := 1
  optionPlace : Option Nat := none
  /-- The path by which the working folder was reached. -/
  folderPath : String := "/"
  /-- Programs that were found by their names, with their paths. -/
  found : List (String × String) := []
  /-- How many loops the command at hand is in. -/
  loops : Nat := 0
  /-- How many tests the command at hand is part of; there a failure ends nothing. -/
  tests : Nat := 0
  /-- What is to be run on signals, and at the end on EXIT. -/
  traps : SortedMap String := .empty
  /-- What is to be run next, on account of a signal. -/
  due : Option String := none
  fate : Fate := .running

namespace State

def isRunning (s : State) : Bool := s.fate = .running

def withStatus (s : State) (status : Nat) : State := { s with status := status }

def isOn (s : State) (letter : Char) : Bool := s.options.contains letter

/-! ### Descriptors -/

def stream? (s : State) (descriptor : Nat) : Option Stream := s.streams.lookup descriptor

/-- Makes a descriptor lead somewhere, or nowhere. -/
def direct (s : State) (descriptor : Nat) (stream : Option Stream) : State :=
  let others := s.streams.filter (·.1 ≠ descriptor)
  { s with streams := (stream.toList.map fun t => (descriptor, t)) ++ others }

def writeTo (s : State) (stream : Option Stream) (bytes : ByteArray) :
    State × Option WriteFault :=
  let entry : Journal.Entry := ⟨s.elapsed, s.process, [bytes]⟩
  match stream with
  | some .stdout => ({ s with stdout := s.stdout.write entry }, none)
  | some .stderr => ({ s with stderr := s.stderr.write entry }, none)
  | some (.pipe index) =>
    if (s.pipes[index]?).any (·.isBroken s.elapsed) then
      ({ s with status := 128 + Signal.number "PIPE", fate := .exited }, none)
    else ({ s with pipes := s.pipes.modify index (·.write s.elapsed s.process bytes) }, none)
  | some (.file names _) =>
    match s.files.root.get? names with
    | some (.file content runnable) =>
      ({ s with files := s.files.put names (.file (content ++ bytes) runnable) }, none)
    | some (.device .full) => (s, if bytes.isEmpty then none else some .noSpace)
    | _ => (s, none)
  | some (.input ..) | some .folder | none => (s, some .badDescriptor)

/-- Writes to a descriptor, and tells what went wrong. -/
def write (s : State) (descriptor : Nat) (bytes : ByteArray) : State × Option WriteFault :=
  s.writeTo (s.stream? descriptor) bytes

def say (s : State) (descriptor : Nat) (text : String) : State :=
  (s.write descriptor text.toUTF8).1

/-- A message of the shell itself. -/
def complain (s : State) (text : String) : State :=
  let speaker := (s.speaker.map (· ++ ": ")).getD ""
  s.say 2 (s.name ++ ": " ++ toString s.line ++ ": " ++ speaker ++ text ++ "\n")

/-- Stops with a message of the shell itself. -/
def abort (s : State) (text : String) : State :=
  { s.complain text with status := 2, fate := .failed }

def openInput (s : State) (descriptor : Nat) (content : Bytes) (ofFile : Bool := false) : State :=
  { s with inputs := s.inputs ++ [content] }.direct descriptor
    (some (.input s.inputs.length ofFile))

/-- What standard input holds, if it can be read. -/
def input? (s : State) : Option (Bytes) :=
  match s.stream? 0 with
  | some (.input index _) => s.inputs[index]?
  | _ => none

/-- Leaves only this much to be read from standard input. -/
def leaveInput (s : State) (content : Bytes) : State :=
  match s.stream? 0 with
  | some (.input index _) => { s with inputs := s.inputs.set index content }
  | _ => s

/-- All that is still to be read from standard input. -/
def readInput (s : State) : Bytes × State := (s.input?.getD [], s.leaveInput [])

/-! ### Pipes -/

/-- Opens a new pipe, to a reader of some appetite, for what is written next to standard output. -/
def openPipe (s : State) (appetite : Option Appetite) : State :=
  { s with pipes := s.pipes ++ [({ appetite := appetite } : Pipe)] }.direct 1
    (some (.pipe s.pipes.length))

/-- What was written to the newest pipe, which is closed. -/
def closePipe (s : State) : Bytes × State :=
  match s.pipes.getLast? with
  | some pipe => (pipe.journal.content.toList, { s with pipes := s.pipes.dropLast })
  | none => ([], s)

/-! ### Variables -/

def value? (s : State) (name : String) : Option String := (s.bindings.get? name).bind (·.value)

/-- Whether a variable may no longer be changed. -/
def isFixed (s : State) (name : String) : Bool := (s.bindings.get? name).any (·.fixed)

def bind (s : State) (name : String) (v : Variable) : State :=
  { s with bindings := s.bindings.insert name v }

def assign (s : State) (name value : String) : State :=
  let old := (s.bindings.get? name).getD ⟨none, false, false⟩
  let s := s.bind name { old with value := some value, exported := old.exported || s.isOn 'a' }
  if name = "OPTIND" then
    { s with optionIndex := max 1 (value.toNat?.getD 1), optionPlace := none }
  else if name = "PATH" then { s with found := [] }
  else s

def markExported (s : State) (name : String) : State :=
  s.bind name { (s.bindings.get? name).getD ⟨none, false, false⟩ with exported := true }

def markFixed (s : State) (name : String) : State :=
  s.bind name { (s.bindings.get? name).getD ⟨none, false, false⟩ with fixed := true }

def unset (s : State) (name : String) : State :=
  { s with bindings := .ofList (s.bindings.entries.filter fun e => e.1 ≠ name) }

/-- Assigns, unless the variable may not be changed. -/
def store (s : State) (name value : String) : State :=
  if s.isFixed name then s.abort (name ++ ": is read only") else s.assign name value

def exported (s : State) : List (String × String) :=
  s.bindings.entries.filterMap fun e =>
    if e.2.exported then e.2.value.map fun v => (e.1, v) else none

/-- The numbers by which the shell knows itself and its parent; those of its jobs follow. -/
def ownProcess : Nat := 4242

def parentProcess : Nat := 4241

def separators (s : State) : List Char := ((s.value? "IFS").getD " \t\n").toList

def joinedArguments (s : State) : String :=
  String.intercalate (String.ofList (s.separators.take 1)) s.arguments

def optionLetters : List Char := "efIimnsxvVECabup".toList

def parameter? (s : State) (name : String) : Option String :=
  match name with
  | "?" => some (toString s.status)
  | "$" => some (toString ownProcess)
  | "!" => some ((s.lastProcess.map toString).getD "")
  | "#" => some (toString s.arguments.length)
  | "0" => some s.name
  | "@" | "*" => if s.arguments.isEmpty then none else some s.joinedArguments
  | "-" => some (String.ofList (optionLetters.filter s.isOn))
  | _ => match name.toNat? with
    | some (n + 1) => s.arguments[n]?
    | _ => s.value? name

/-! ### Options and functions -/

def testing (act : State → State) (s : State) : State :=
  { act { s with tests := s.tests + 1 } with tests := s.tests }

/-- Ends the shell if a command failed that must not. -/
def settle (s : State) : State :=
  if s.isRunning && s.isOn 'e' && s.tests = 0 && s.status ≠ 0 then { s with fate := .exited }
  else s

/-- Gives the shell other arguments, which have not been read for options yet. -/
def setArguments (s : State) (arguments : List String) : State :=
  { s with arguments := arguments, optionIndex := 1, optionPlace := none }

def enterFunction (s : State) (arguments : List String) : State :=
  { s.setArguments arguments with frames := [] :: s.frames, isLast := false, loops := 0 }

def restore (s : State) (saved : String × Option Variable) : State :=
  match saved.2 with
  | some v => s.bind saved.1 v
  | none => s.unset saved.1

def leaveFunction (inner outer : State) : State :=
  let inner := (inner.frames.headD []).foldl restore inner
  { inner with
    arguments := outer.arguments
    optionIndex := outer.optionIndex
    optionPlace := outer.optionPlace
    frames := outer.frames
    isLast := outer.isLast
    loops := outer.loops
    fate := match inner.fate with
      | .returning => .running
      | fate => fate }

/-! ### Time -/

/-- How long those that were asked to end may go on. -/
def grace : Nat := 2000

/-- What the end of the time limit means. At first all that runs is asked to end: some do so, some
do something else first, and some go on until they are stopped. -/
def expire (s : State) (resumed : Nat) : State :=
  let asked := { s with elapsed := s.limit, limit := s.limit + grace, overdue := true }
  if s.overdue then { s with elapsed := s.limit, fate := .late }
  else match s.traps.get? "TERM" with
    | none => { asked with fate := .late }
    | some "" =>
      if resumed < asked.limit then { asked with elapsed := resumed }
      else { asked with elapsed := asked.limit, fate := .late }
    | some text => { asked with status := 128 + Signal.number "TERM", due := some text }

def wait (s : State) (milliseconds : Nat) : State :=
  let elapsed := s.elapsed + milliseconds
  if s.limit ≤ elapsed then s.expire elapsed else { s with elapsed := elapsed }

def stall (s : State) : State := s.wait (s.limit - s.elapsed + grace)

def isStopped (s : State) : Bool := s.fate = .late && s.overdue && s.limit ≤ s.elapsed

/-! ### Subshells and jobs -/

/-- What is to be run on signals once a process of its own begins: only what is ignored stays so. -/
def keepIgnored (s : State) : State :=
  { s with traps := .ofList (s.traps.entries.filter fun e => e.2.isEmpty) }

def enterSubshell (s : State) : State := { s.keepIgnored with jobs := [], isMain := false }

def mourn (s : State) (signal : Nat) : State :=
  match Signal.obituary? signal with
  | some text => s.say 2 (text ++ "\n")
  | none => s

/-- What a shell comes to that waited for a process. If all was asked to end meanwhile, that goes
for the shell as well. -/
def outlive (outer after inner : State) : State :=
  if inner.overdue && !outer.overdue && !inner.isStopped then
    let signal := Signal.number "TERM"
    match outer.traps.get? "TERM" with
    | none => { after with fate := .late }
    | some text =>
      let after := if inner.fate = .late then (after.mourn signal).withStatus (128 + signal)
        else after
      { after with fate := outer.fate, due := if text.isEmpty then none else some text }
  else { after with
    fate := match inner.fate with
      | .killed signal => .killed signal
      | .late => .late
      | _ => outer.fate }

def inWorldOf (outer inner : State) : State :=
  { outer with
    files := { inner.files with workingFolder := outer.files.workingFolder }
    inputs := inner.inputs
    stdout := inner.stdout
    stderr := inner.stderr
    pipes := inner.pipes
    elapsed := inner.elapsed
    limit := inner.limit
    overdue := inner.overdue
    launched := inner.launched
    posted := inner.posted }

/-- The state after a subshell, which changes little but the world around it. -/
def leaveSubshell (inner outer : State) : State :=
  outer.outlive { outer.inWorldOf inner with status := inner.status } inner

/-- Waits for all that still may write to the newest pipe. -/
def drain (s : State) : State :=
  s.wait (s.jobs.foldl (fun n j => max n j.finish) s.elapsed - s.elapsed)

def enterJob (s : State) : State :=
  { s.enterSubshell with
    process := ownProcess + s.launched + 1, launched := s.launched + 1, tests := 0 }

/-- The state after a job was started, to be told by what the job came to. -/
def leaveJob (inner outer : State) : State :=
  let signal := match inner.fate with
    | .killed signal => some signal
    | .late => some (Signal.number (if inner.isStopped then "KILL" else "TERM"))
    | _ => none
  let kept := outer.jobs.filter fun j => !(j.awaited && j.finish ≤ outer.elapsed)
  let job : Job := {
    number := kept.foldl (fun n j => max n j.number) 0 + 1
    process := ownProcess + outer.launched + 1
    finish := inner.elapsed + 1
    status := (signal.map (128 + ·)).getD inner.status
    signal := signal }
  { outer.inWorldOf inner with
    elapsed := outer.elapsed
    limit := outer.limit
    overdue := outer.overdue
    jobs := job :: kept
    lastProcess := some job.process
    status := 0 }

end State
end BuildPipeline.Shell
