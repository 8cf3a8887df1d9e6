import BuildPipeline.Shell.Builtins.Basic
import BuildPipeline.Shell.Signal

/-!
Commands for signals and for commands in the background.
-/
namespace BuildPipeline.Shell.Builtins

def receive (signal : String) (s : State) : State :=
  if signal = "KILL" then { s with fate := .killed (Signal.number signal) }
  else if signal = "STOP" then s.stall
  else match s.traps.get? signal with
    | some "" => s
    | some text => { s with due := some text }
    | none => match Signal.effect signal with
      | .nothing => s
      | .halt => s.stall
      | .death => { s with fate := .killed (Signal.number signal) }

def receivePosted (s : State) : State :=
  let (now, later) := s.posted.partition (·.1 ≤ s.elapsed)
  now.foldl (fun s p => if s.isRunning then receive p.2 s else s) { s with posted := later }

/-- Sends a signal to the shell; a part of it leaves it to the shell to see to it. -/
def sendShell (signal : String) (s : State) : State :=
  if s.isMain then receive signal s else { s with posted := s.posted ++ [(s.elapsed, signal)] }

/-- Ends a job in the background, if it is still running. What it would write later is not written.
-/
def sendJob (signal : String) (job : Job) (s : State) : State :=
  if s.elapsed < job.finish then
    match Signal.effect signal with
    | .death =>
      let number := Signal.number signal
      let ended := { job with finish := s.elapsed, status := 128 + number, signal := some number }
      let stopped (j : Journal) : Journal := j.stopped job.process s.elapsed
      { s with
        jobs := s.jobs.map fun j => if j.process = job.process then ended else j
        stdout := stopped s.stdout
        stderr := stopped s.stderr
        pipes := s.pipes.map fun p => { p with journal := stopped p.journal } }
    | _ => s
  else (s.complain "No such process\n").withStatus 1

/-- The job that a text such as `%1` stands for. -/
def job? (s : State) (text : String) : Option Job :=
  match text.toList.drop 1 with
  | [] | ['%'] | ['+'] => s.jobs[0]?
  | ['-'] => s.jobs[1]?
  | digits => (number? (String.ofList digits)).bind fun n => s.jobs.find? (·.number = n)

/-- Sends a signal to the shell or to a job of it; no other process can be reached. A job is no
group of processes. -/
def send (signal : String) (target : String) (s : State) : State :=
  let process := if target.startsWith "-" then String.ofList (target.toList.drop 1) else target
  let missing : State := (s.complain "No such process\n").withStatus 1
  match number? process with
  | none =>
    if target.startsWith "%" then
      if (job? s target).isNone then s.abort ("No such job: " ++ target) else missing
    else illegalNumber process s
  | some 0 => if s.isMain then receive signal s else receive signal (sendShell signal s)
  | some n =>
    if n = State.ownProcess then sendShell signal s
    else match s.jobs.find? (·.process = n) with
      | some job => sendJob signal job s
      | none => missing

def killUsage : String :=
  "Usage: kill [-s sigspec | -signum | -sigspec] [pid | job]... or\nkill -l [exitstatus]"

/-- Names of signals: all of them, or the one of a number or a status. -/
def listSignals (operands : List String) (s : State) : State :=
  match operands with
  | [] => emitText ("0\n" ++ String.join ((Signal.names.drop 1).map (· ++ "\n"))) s
  | a :: _ => match number? a with
    | none => illegalNumber a s
    | some n =>
      let n := if 128 < n then n - 128 else n
      match if n = 0 then none else Signal.name? n with
      | some name => emitText (name ++ "\n") s
      | none => s.abort ("invalid signal number or exit status: " ++ a)

/-- Sends a signal to each target; one that is missing is a fault. -/
def sendAll (signal : String) (targets : List String) (s : State) : State :=
  if targets.isEmpty then s.abort killUsage
  else eachArgument (send signal) targets (s.withStatus 0)

def kill : Builtin := fun arguments s =>
  match arguments with
  | [] => s.abort killUsage
  | a :: rest =>
    if !a.startsWith "-" then sendAll "TERM" arguments s
    else match Signal.find? (String.ofList (a.toList.drop 1)) with
      | some signal => sendAll signal rest s
      | none => withOptions "l" "s" (fun options s =>
          match options.has 'l', options.value? 's' with
          | true, none => listSignals options.operands (s.withStatus 0)
          | true, some _ => s.abort killUsage
          | false, none => sendAll "TERM" options.operands s
          | false, some name => match Signal.find? name with
            | some signal => sendAll signal options.operands s
            | none => s.abort ("invalid signal number or name: " ++ name))
        arguments s

/-- What is set to be run, in the order of the signals. -/
def trapListing (s : State) : String :=
  String.join <| Signal.names.filterMap fun name =>
    (s.traps.get? name).map fun text => "trap -- " ++ quoted text ++ " " ++ name ++ "\n"

/-- Sets what is to be run on signals; a dash, or nothing, brings back what was there at first. -/
def setTraps (action : Option String) : List String → State → State
  | [], s => s
  | a :: rest, s => match Signal.find? a with
    | none => (s.say 2 ("trap: " ++ a ++ ": bad trap\n")).withStatus 1
    | some signal => setTraps action rest (match action with
      | some text => { s with traps := s.traps.insert signal text }
      | none => { s with traps := .ofList (s.traps.entries.filter (·.1 ≠ signal)) })

def trap : Builtin := withOptions "" "" fun options s =>
  let s := s.withStatus 0
  match options.operands with
  | [] => emitText (trapListing s) s
  | [name] => setTraps none [name] s
  | action :: names =>
    if (Signal.find? action).isSome && action.toNat?.isSome then setTraps none (action :: names) s
    else setTraps (if action = "-" then none else some action) names s

/-- Waits for a job, and comes to what it came to. -/
def awaitJob (job : Job) (s : State) : State :=
  let done := (s.withStatus job.status).wait (job.finish - s.elapsed)
  let isNews := !job.awaited && s.elapsed ≤ job.finish && done.isRunning && done.overdue = s.overdue
  let done := match job.signal with
    | some signal => if isNews then done.mourn signal else done
    | none => done
  { done with
    jobs := done.jobs.map fun j =>
      if j.process = job.process then { j with awaited := true } else j }

/-- Waits for jobs in the background, for all of them if none is named. -/
def await : Builtin := withOptions "" "" fun options s =>
  match options.operands with
  | [] =>
    let last := s.jobs.foldl (fun n j => max n j.finish) s.elapsed
    { (s.withStatus 0).wait (last - s.elapsed) with
      jobs := s.jobs.map fun j => { j with awaited := true } }
  | targets => eachArgument (fun a s =>
      if a.startsWith "%" then
        match job? s a with
        | some job => awaitJob job s
        | none => s.abort ("No such job: " ++ a)
      else match number? a with
        | none => illegalNumber a s
        | some n => match s.jobs.find? (·.process = n) with
          | some job => awaitJob job s
          | none => s.withStatus 127)
    targets s

/-- How a job is doing, in a word. -/
def progress (s : State) (job : Job) : String :=
  if s.elapsed < job.finish then "Running"
  else match job.signal.bind Signal.obituary? with
    | some text => text
    | none => if job.status = 0 then "Done" else "Done(" ++ toString job.status ++ ")"

def jobLine (detailed : Bool) (s : State) (job : Job) : String :=
  let mark := if s.jobs[0]? = some job then "+" else if s.jobs[1]? = some job then "-" else " "
  let process := if detailed then toString job.process ++ " " else ""
  let text := "[" ++ toString job.number ++ "] " ++ mark ++ " " ++ process ++ progress s job
  text ++ String.ofList (List.replicate (33 - text.length) ' ') ++ "\n"

/-- Tells of a job. One that is done is told of only once. -/
def tellJob (options : Options) (job : Job) (s : State) : State :=
  let line := if options.has 'p' then toString job.process ++ "\n"
    else jobLine (options.has 'l') s job
  let s := emitText line s
  if s.elapsed < job.finish then s
  else { s with jobs := s.jobs.filter (·.process ≠ job.process) }

def jobs : Builtin := withOptions "lp" "" fun options s =>
  let s := s.withStatus 0
  if options.operands.isEmpty then s.jobs.foldl (fun s j => tellJob options j s) s
  else eachArgument (fun a s => match job? s a with
    | some job => tellJob options job s
    | none => s.abort ("No such job: " ++ a)) options.operands s

/-- Jobs cannot be brought to the front, nor back. -/
def moveJob : Builtin := fun arguments s =>
  let named (a : String) : State := match job? s a with
    | some _ => s.abort ("job " ++ a ++ " not created under job control")
    | none => s.abort ("No such job: " ++ a)
  match arguments with
  | [] =>
    if s.jobs.isEmpty then s.abort "No current job"
    else s.abort "job (null) not created under job control"
  | a :: _ => named a

end BuildPipeline.Shell.Builtins
