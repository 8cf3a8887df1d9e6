import BuildPipeline.Shell.Action
import BuildPipeline.Shell.Batches
import BuildPipeline.Shell.Expansion
import BuildPipeline.Shell.Opening
import BuildPipeline.Shell.Reader
import BuildPipeline.Shell.Start

/-!
Running commands. Runs are given a budget, which every part of a run makes smaller; a run that uses
it up has no end that could be told, and counts as one that reached its time limit.
-/
namespace BuildPipeline.Shell

def printedText (bytes : Bytes) : String :=
  let shown := (Text.decodeBytes bytes).filter (· ≠ Char.ofNat 0)
  String.ofList (shown.reverse.dropWhile (· = '\n')).reverse

/-- A run that has no end that could be told goes on for ever; what is to be done before a shell
ends is done when the run is left. -/
def State.exhausted (s : State) : State :=
  let after := s.stall
  if after.fate = .late then after else { after with fate := .late }

/-- A loop that is left; if more loops are left with it, the next one out comes to know. -/
def afterLoop (s : State) : State :=
  match s.fate with
  | .leaving 0 _ => { s with fate := .running }
  | .leaving (k + 1) again => { s with fate := .leaving k again }
  | _ => s

/-- Whether a shell that came to this end still does what is to be done at its end. -/
def Fate.isOrderly : Fate → Bool
  | .killed _ | .late => false
  | _ => true

/-- The state after a program. One that a signal ended is told of, unless it stood in the shell's
own place. -/
def State.leaveProgram (inner outer : State) : State :=
  let after := { inner.leaveSubshell outer with posted := outer.posted }
  match inner.fate with
  | .killed signal =>
    if outer.isLast && outer.traps.entries.isEmpty then after
    else { after.mourn signal with fate := outer.fate, status := 128 + signal }
  | _ => after

def redirected : List Redirection → List Nat
  | [] => []
  | .file descriptor _ _ :: rest | .duplicate descriptor _ :: rest | .here descriptor _ :: rest =>
    descriptor :: redirected rest

def State.restoreStreams (s : State) (descriptors : List Nat) (before : State) : State :=
  descriptors.foldl (fun s d => s.direct d (before.stream? d)) s

def State.restoreVariables (s : State) (names : List String) (before : State) : State :=
  names.foldl (fun s name => s.restore (name, before.bindings.get? name)) s

def startFault (name : String) (e : IoError) (s : State) : State :=
  let missing := e = .notFound || e = .notFolder
  Tools.complain (Tools.inQuotes name ++ ": " ++ Tools.faultText e) (if missing then 127 else 126) s

/-- The text of a word in which nothing is put in place of anything. -/
def literal? (word : Word) : Option String :=
  (word.mapM fun
    | Part.text _ s => some s
    | _ => none).map String.join

/-- How much a command takes from a pipe before it ends, as far as its words say. -/
def appetite? : Command → Option Appetite
  | .simple _ _ words _ => do
    match ← words.mapM literal? with
    | "head" :: arguments => Tools.headAppetite? arguments
    | _ => none
  | _ => none

mutual
def capture (budget : Nat) (command : Command) (s : State) : String × State :=
  match budget with
  | 0 => ("", s.exhausted)
  | n + 1 =>
    let inner := runSubshell n command { s with tests := 0 } (s.enterSubshell.openPipe none)
    let (bytes, inner) := inner.drain.closePipe
    let after := inner.leaveSubshell s
    (printedText bytes, { after with substituted := some after.status })
  termination_by structural budget

/-- Redirections in order, up to one that fails. -/
def redirect (budget : Nat) (redirections : List Redirection) (s : State) : Except State State :=
  match budget, redirections with
  | 0, _ => .error s.exhausted
  | _, [] => .ok s
  | n + 1, r :: rest =>
    let opened := match r with
      | .file descriptor opening word =>
        let (name, s) := Expansion.text (capture n) n word s
        if s.isRunning then s.openFile descriptor opening name else .error s
      | .duplicate descriptor word =>
        let (source, s) := Expansion.text (capture n) n word s
        if s.isRunning then s.duplicate descriptor source else .error s
      | .here descriptor word =>
        let (text, s) := Expansion.text (capture n) n word s
        if s.isRunning then .ok (s.openInput descriptor (Bytes.ofText text)) else .error s
    match opened with
    | .ok s => redirect n rest s
    | .error s => .error s
  termination_by structural budget

/-- Assignments in order; also gives the values. -/
def assignAll (budget : Nat) (exported : Bool) (assignments : List (String × Word)) (s : State) :
    List (String × String) × State :=
  match budget, assignments with
  | 0, _ | _, [] => ([], s)
  | n + 1, (name, word) :: rest =>
    let (value, s) := Expansion.text (capture n) n word s
    let s := if s.isRunning then s.store name value else s
    if s.isRunning then
      let (more, s) := assignAll n exported rest (if exported then s.markExported name else s)
      ((name, value) :: more, s)
    else ([], s)
  termination_by structural budget

/-- Shows a command that is about to be carried out, if that is wanted. -/
def trace (budget : Nat) (assignments : List (String × String)) (fields : List String)
    (stream : Option Stream) (s : State) : State :=
  match budget with
  | 0 => s.exhausted
  | n + 1 =>
    if !s.isOn 'x' then s
    else
      let lead := (s.value? "PS4").getD ""
      let quiet := { s with options := s.options.filter (· ≠ 'x') }
      let (lead, s') := match Reader.parts 0 s.aliases (lead.length * 10 + 40) .all lead.toList with
        | .ok (word, _) => Expansion.text (capture n) n word quiet
        | .error _ => (lead, quiet)
      let shown := assignments.map (fun a => a.1 ++ "=" ++ a.2) ++ fields
      let text := lead ++ String.intercalate " " shown ++ "\n"
      { s'.writeTo stream text.toUTF8 |>.1 with options := s.options }
  termination_by structural budget

/-- Runs the lines of a text; after the last one of them the shell ends if the text is its own. -/
def runLines (budget : Nat) (total : Nat) (isOwn : Bool) (cs : List Char) (s : State) : State :=
  match budget with
  | 0 => s.exhausted
  | n + 1 =>
    match Reader.next total s.aliases (cs.length + 1) cs with
    | .done => s
    | .fault line fault =>
      let lead := if fault = SyntaxFault.badSubstitution then "" else "Syntax error: "
      { s with line := line }.abort (lead ++ fault.message)
    | .line command rest =>
      if s.isOn 'n' then runLines n total isOwn rest s
      else
        let s := run n command { s with isLast := isOwn && rest.isEmpty }
        if s.isRunning then runLines n total isOwn rest s else s
  termination_by structural budget

def runText (budget : Nat) (isOwn : Bool) (text : String) (s : State) : State :=
  match budget with
  | 0 => s.exhausted
  | n + 1 =>
    let cs := text.toList
    let after := runLines n (cs.count '\n') isOwn cs s
    { after with isLast := s.isLast }
  termination_by structural budget

def finish (budget : Nat) (s : State) : State :=
  match budget with
  | 0 => s.exhausted
  | n + 1 =>
    let s := match s.fate, s.due with
      | .late, some text =>
        let after := runText n false text { s with fate := .running, due := none }
        if after.isRunning then after.stall else after
      | _, _ => s
    match s.traps.get? "EXIT" with
    | some text =>
      if s.fate.isOrderly then
        let ready := { s with
          fate := .running, traps := .ofList (s.traps.entries.filter (·.1 ≠ "EXIT"))
          speaker := none, loops := 0, tests := 0 }
        let after := runText n false text ready
        if after.isRunning then { after.withStatus s.status with fate := s.fate } else after
      else s
    | none => s
  termination_by structural budget

/-- Runs a command in a subshell that has begun, and what is to be run at its end. -/
def runSubshell (budget : Nat) (command : Command) (outer s : State) : State :=
  match budget with
  | 0 => s.exhausted
  | n + 1 =>
    let after := finish n (run n command { s with tests := outer.tests, isLast := false })
    { after with status := after.status % 256 }
  termination_by structural budget

def runShell (budget : Nat) (text : String) (s : State) : State :=
  match budget with
  | 0 => s.exhausted
  | n + 1 =>
    let after := finish n (runText n true text s)
    { after with status := after.status % 256 }
  termination_by structural budget

def runDue (budget : Nat) (s : State) : State :=
  let s := if s.isMain && !s.posted.isEmpty && s.isRunning then Builtins.receivePosted s else s
  match budget, s.due with
  | n + 1, some text =>
    if !s.isRunning then s else
    let after := runText n false text { s with due := none }
    if after.isRunning then after.withStatus s.status else after
  | _, _ => s
  termination_by structural budget

def startShell (budget : Nat) (name : String) (arguments : List String) (s : State) : State :=
  match budget with
  | 0 => s.exhausted
  | n + 1 =>
    match Invocation.read name arguments with
    | .error fault => (s.say 2 (name ++ ": 0: " ++ fault ++ "\n")).withStatus 2
    | .ok i => match i.text, i.file with
      | some text, _ => runShell n text (s.enterShell i)
      | none, some file => match Tools.source file s with
        | (.ok content, s) =>
          runShell n (String.ofList (Text.decodeBytes content)) (s.enterShell i)
        | (.error e, s) =>
          let text := if e = .notFound || e = .notFolder then "No such file" else Tools.faultText e
          (s.say 2 (name ++ ": 0: cannot open " ++ file ++ ": " ++ text ++ "\n")).withStatus 2
      | none, none =>
        let (content, s) := s.readInput
        runShell n (String.ofList (Text.decodeBytes content)) (s.enterShell i)
  termination_by structural budget

def startBatches (budget : Nat) (options : Options) (batches : List (List String)) (s : State) :
    State :=
  match budget, batches with
  | 0, _ => s.exhausted
  | _, [] => s
  | _, [] :: _ => s
  | n + 1, (name :: arguments) :: rest =>
    let s := if options.has 't' then s.say 2 (String.intercalate " " (name :: arguments) ++ "\n")
      else s
    match Action.ofProgram s (Action.searchPath s) name with
    | .absent e =>
      let missing := e = .notFound || e = .notFolder
      Tools.complain (name ++ ": " ++ Tools.faultText e) (if missing then 127 else 126) s
    | action =>
      let before := s.status
      let after := carryOut n action name arguments (s.openInput 0 [])
      let after := { after.restoreStreams [0] s with speaker := s.speaker }
      if !after.isRunning then after
      else if after.status = 255 then
        Tools.complain (name ++ ": exited with status 255; aborting") 124 after
      else startBatches n options rest (after.withStatus (if after.status = 0 then before else 123))
  termination_by structural budget

def runSteps (budget : Nat) (steps : List Tools.SearchStep) (s : State) : State :=
  match budget, steps with
  | 0, _ => s.exhausted
  | _, [] => s
  | n + 1, .tell text :: rest => runSteps n rest (Tools.emitText text s)
  | n + 1, .remove path :: rest =>
    runSteps n rest (if s.files.existsAt ⟨path⟩ then Tools.removeTree path s else s)
  | n + 1, .execute [] :: rest | n + 1, .gather _ _ :: rest => runSteps n rest s
  | n + 1, .execute (name :: arguments) :: rest =>
    let status := s.status
    let after := match Action.ofProgram s (Action.searchPath s) name with
      | .absent e => startFault name e s
      | action => carryOut n action name arguments s
    if after.isRunning then runSteps n rest { after.withStatus status with speaker := s.speaker }
    else after
  termination_by structural budget

def runProgram (budget : Nat) (program : Program) (name : String) (arguments : List String)
    (s : State) : State :=
  match budget with
  | 0 => s.exhausted
  | n + 1 =>
    let misused (fault : OptionFault) (status : Nat) : State :=
      Tools.misused (Tools.optionFaultText fault) status s
    match program with
    | .tool t => t.start arguments s
    | .shell => startShell n name arguments s
    | .withVariables =>
      let arguments := arguments.map fun a => if a = "-" then "-i" else a
      match Options.read environmentRules arguments with
      | .error fault => misused fault 125
      | .ok options =>
        let (assignments, command) := splitAssignments options.operands
        let environment := changedVariables options assignments s
        match command with
        | [] => Tools.emitLines (environment.map fun v => v.1 ++ "=" ++ v.2) (s.withStatus 0)
        | program :: more =>
          let given : SortedMap Variable :=
            .ofList (environment.map fun v => (v.1, ⟨some v.2, true, false⟩))
          let inner := { s with bindings := given, found := [] }
          let path := (environment.lookup "PATH").getD "/bin:/usr/bin"
          match Action.ofProgram inner path program with
          | .absent e => startFault program e s
          | action => carryOut n action program more inner
    | .withInput => match Options.read inputRules arguments with
      | .error fault => misused fault 1
      | .ok options =>
        let (bytes, s) := Tools.gather [] s
        let command := if options.operands.isEmpty then ["echo"] else options.operands
        startBatches n options (inputBatches options command bytes) (s.withStatus 0)
    | .search => match Tools.Search.steps arguments s with
      | .error text => Tools.complain text 1 s
      | .ok (steps, missing) =>
        let s := missing.foldl (fun s m =>
          Tools.complain (Tools.inQuotes m.1 ++ ": " ++ Tools.faultText m.2) 1 s) (s.withStatus 0)
        let gathered := steps.filterMap fun
          | .gather command path => some (command, path)
          | _ => none
        let last := match gathered with
          | [] => []
          | (command, _) :: _ => [Tools.SearchStep.execute (command ++ gathered.map (·.2))]
        runSteps n (steps ++ last) s
    | .limited => match Options.read limitRules arguments with
      | .error fault => misused fault 125
      | .ok options => match options.operands with
        | [] | [_] =>
          (s.say 2 ("Try '" ++ name ++ " --help' for more information.\n")).withStatus 125
        | duration :: program :: more => match Tools.duration? duration with
          | none => Tools.misused ("invalid time interval " ++ Tools.inQuotes duration) 125 s
          | some time => match Action.ofProgram s (Action.searchPath s) program with
            | .absent e =>
              let missing := e = .notFound || e = .notFolder
              Tools.complain ("failed to run command " ++ Tools.inQuotes program ++ ": " ++
                Tools.faultText e) (if missing then 127 else 126) s
            | action =>
              if time = 0 || s.limit ≤ s.elapsed + time then carryOut n action program more s
              else
                let after := carryOut n action program more
                  { s with limit := s.elapsed + time, overdue := false }
                let back := { after with limit := s.limit, overdue := s.overdue }
                let isKill := (options.value? 's').any fun t => t.endsWith "KILL" || t = "9"
                if !after.overdue then back
                else if isKill then { back with fate := .killed (Signal.number "KILL") }
                else { back with
                  fate := .running, status := if options.has 'p' then 143 else 124 }
    | .wrapper valued =>
      match Options.read { plain := "", valued := valued, mixed := false } arguments with
      | .error fault => misused fault 125
      | .ok options => match options.operands with
        | [] => Tools.misused "missing operand" 125 s
        | program :: more => match Action.ofProgram s (Action.searchPath s) program with
          | .absent e => startFault program e s
          | action => carryOut n action program more s
    | .locate =>
      let found := arguments.map fun a => Action.path? s (Action.searchPath s) a
      Tools.emitLines (found.filterMap id)
        (s.withStatus (if found.all (·.isSome) && !found.isEmpty then 0 else 1))
  termination_by structural budget

def carry (budget : Nat) (carrier : Carrier) (arguments : List String) (s : State) : State :=
  match budget with
  | 0 => s.exhausted
  | n + 1 =>
    match carrier with
    | .evaluate => runText n false (String.intercalate " " arguments) (s.withStatus 0)
    | .source => match arguments with
      | [] => s
      | file :: _ =>
        let path := if file.toList.contains '/' then some file
          else ((Action.candidates (Action.searchPath s) file).find? fun p =>
            match s.files.stat ⟨p⟩ with
            | .ok n => n.isFile
            | .error _ => false)
        match path with
        | none => s.abort (file ++ ": not found")
        | some path => match Tools.source path s with
          | (.error e, s) =>
            s.abort ("cannot open " ++ path ++ ": " ++ State.openingFault "No such file" e)
          | (.ok content, s) =>
            let text := String.ofList (Text.decodeBytes content)
            let inner := { s.withStatus 0 with speaker := some path, tests := 0 }
            let after := runText n false text inner
            { after with
              speaker := s.speaker
              tests := s.tests
              fate := if after.fate = .returning then .running else after.fate }
    | .replace => match arguments with
      | [] => s.withStatus 0
      | program :: more =>
        let action := Action.ofProgram s (Action.searchPath s) program
        match action.given s program more with
        | .absent e =>
          let missing := e = .notFound || e = .notFolder
          let text := if missing then "not found" else Tools.faultText e
          { s.complain (program ++ ": " ++ text) with
            status := if missing then 127 else 126, fate := .exited }
        | action =>
          let after := carryOut n action program more
            { s.keepIgnored with isLast := true }
          if after.isRunning then { after with fate := .exited } else after
    | .plainly =>
      let path := Action.searchPath s
      match Options.read { plain := "pvV", mixed := false } arguments with
      | .error (.unknown c) => s.abort ("Illegal option -" ++ c.toString)
      | .error _ => s
      | .ok options =>
        let path := if options.has 'p' then defaultPath else path
        match options.operands with
        | [] => s.withStatus 0
        | program :: more =>
          if options.has 'V' then Action.tell true path [program] s
          else if options.has 'v' then Action.tell false path [program] s
          else
            let action := (Action.builtin? program).getD (Action.ofProgram s path program)
            carryOut n action program more { s with speaker := none }
    | .describe => Action.tell true (Action.searchPath s) arguments s
    | .remember => Action.remember arguments s
  termination_by structural budget

def carryOut (budget : Nat) (action : Action) (name : String) (arguments : List String)
    (s : State) : State :=
  match budget with
  | 0 => s.exhausted
  | n + 1 =>
    let named := { s with speaker := some name }
    let unnamed (after : State) : State := { after with speaker := s.speaker }
    match action.given s name arguments with
    | .special b | .regular b => unnamed (b arguments named)
    | .carrier c => unnamed (carry n c arguments named)
    | .function body => (run n body (s.enterFunction arguments)).leaveFunction s
    | .program p before =>
      (runProgram n p name (before ++ arguments) named.keepIgnored).leaveProgram s
    | .script path text =>
      let i : Invocation := { name := path, arguments := arguments }
      (runShell n text (s.enterShell i)).leaveProgram s
    | .absent e =>
      let text := if e = .notFound || e = .notFolder then "not found" else Tools.faultText e
      let isPlace := name.toList.contains '/'
      let missing := e = .notFound || e = .notFolder || e = .tooManyLinks || e = .nameTooLong
      let isFound := isPlace || e = .argumentsTooLong
      (s.complain (name ++ ": " ++ text)).withStatus (if missing || !isFound then 127 else 126)
  termination_by structural budget

def runPipeline (budget : Nat) (input : Option Bytes) (commands : List Command) (s : State) :
    State :=
  match budget, commands with
  | 0, _ => s.exhausted
  | _, [] => s
  | n + 1, c :: rest =>
    let fed := match input with
      | some bytes => s.enterSubshell.openInput 0 bytes
      | none => s.enterSubshell
    if rest.isEmpty then (runSubshell n c s fed).leaveSubshell s
    else
      let piped := fed.openPipe (rest.head?.bind appetite?)
      let (bytes, inner) := (runSubshell n c s piped).drain.closePipe
      let after := inner.leaveSubshell s
      if !after.isRunning then after
      else if after.overdue && !s.overdue then
        rest.foldl (fun s _ => s.mourn (Signal.number "TERM")) after
      else runPipeline n (some bytes) rest after
  termination_by structural budget

def runLoop (budget : Nat) (goOn : Bool) (test body : Command) (last : Nat) (s : State) : State :=
  match budget with
  | 0 => s.exhausted
  | n + 1 =>
    let s := s.testing (run n test)
    match s.fate with
    | .leaving 0 true => runLoop n goOn test body s.status { s with fate := .running }
    | .running =>
      if (s.status = 0) ≠ goOn then s.withStatus last
      else
        let s := run n body s
        match s.fate with
        | .running => runLoop n goOn test body s.status s
        | .leaving 0 true => runLoop n goOn test body s.status { s with fate := .running }
        | _ => afterLoop s
    | _ => afterLoop s
  termination_by structural budget

def runEach (budget : Nat) (name : String) (values : List String) (body : Command) (s : State) :
    State :=
  match budget, values with
  | 0, _ => s.exhausted
  | _, [] => s
  | n + 1, v :: rest =>
    let s := s.store name v
    if !s.isRunning then s
    else
      let s := run n body s
      match s.fate with
      | .running => runEach n name rest body s
      | .leaving 0 true => runEach n name rest body { s with fate := .running }
      | _ => afterLoop s
  termination_by structural budget

/-- Whether one of some patterns matches a word; those after it are left alone. -/
def fitsAny (budget : Nat) (word : String) (patterns : List Word) (s : State) : Bool × State :=
  match budget, patterns with
  | 0, _ => (false, s.exhausted)
  | _, [] => (false, s)
  | n + 1, p :: rest =>
    let (as, s) := Expansion.expand (capture n) n (Expansion.withHome s p) s
    if !s.isRunning then (false, s)
    else if Pattern.isMatch (Pattern.ofField (Expansion.joined as)) word.toList then (true, s)
    else fitsAny n word rest s
  termination_by structural budget

def choose (budget : Nat) (word : String) (branches : List (List Word × Command)) (s : State) :
    State :=
  match budget, branches with
  | 0, _ => s.exhausted
  | _, [] => s
  | n + 1, (patterns, body) :: rest =>
    let (fits, s) := fitsAny n word patterns s
    if !s.isRunning then s
    else if fits then run n body s
    else choose n word rest s
  termination_by structural budget

/-- Runs a command with words, once these are read. -/
def runSimple (budget : Nat) (assignments : List (String × Word)) (fields : List String)
    (redirections : List Redirection) (s : State) : State :=
  match budget with
  | 0 => s.exhausted
  | n + 1 =>
    let descriptors := redirected redirections
    match redirect n redirections s, fields with
    | .error failed, [] => failed.restoreStreams descriptors s
    | .ok opened, [] =>
      let (values, after) := assignAll n false assignments (opened.restoreStreams descriptors s)
      let after := if after.isRunning then trace n values [] (s.stream? 2) after else after
      if after.isRunning then after.withStatus (after.substituted.getD 0) else after
    | .error failed, name :: _ =>
      let failed := failed.restoreStreams descriptors s
      if (Action.find s name).isSpecial && failed.isRunning then { failed with fate := .failed }
      else failed
    | .ok opened, name :: arguments =>
      let isSpecial := (Action.find s name).isSpecial
      let (values, ready) := assignAll n (!isSpecial) assignments opened
      let ready := if ready.isRunning then trace n values fields (s.stream? 2) ready else ready
      let action := Action.find ready name
      let after := if ready.isRunning then carryOut n action name arguments ready else ready
      let forgiven := match action with
        | .regular _ => ready.isRunning
        | .carrier _ => ready.isRunning && !isSpecial
        | _ => false
      let after := if forgiven && after.fate = .failed then { after with fate := .running }
        else after
      let after := match action with
        | .program .. | .script .. => match Action.locate ready (Action.searchPath ready) name with
          | .ok path =>
            if name.toList.contains '/' || (after.found.lookup name).isSome then after
            else { after with found := after.found ++ [(name, path)] }
          | .error _ => after
        | _ => after
      let after := if isSpecial then after
        else after.restoreVariables (assignments.map (·.1)) s
      let keeps := name = "exec" || (name = "command" && arguments.head? = some "exec")
      if keeps && after.fate ≠ .failed then after else after.restoreStreams descriptors s
  termination_by structural budget

def run (budget : Nat) (command : Command) (s : State) : State :=
  match budget with
  | 0 => s.exhausted
  | n + 1 =>
    let notLast (s : State) : State := { s with isLast := false }
    let again (after : State) : State := { after with isLast := s.isLast }
    if s.isOn 'n' then s
    else match command with
    | .nothing => s.withStatus 0
    | .simple line assignments words redirections =>
      let (fields, s) := Expansion.words (capture n) n words
        { s with line := line, substituted := none }
      if s.isRunning then
        let s := runSimple n assignments fields redirections s
        (runDue n s).settle
      else s
    | .redirected line inner redirections =>
      match redirect n redirections { s with line := line } with
      | .error failed => failed.restoreStreams (redirected redirections) s
      | .ok opened =>
        again ((run n inner (notLast opened)).restoreStreams (redirected redirections) s)
    | .subshell inner =>
      (runDue n ((runSubshell n inner s s.enterSubshell).leaveSubshell s)).settle
    | .pipeline commands => (runDue n (runPipeline n none commands s)).settle
    | .negated inner =>
      let s := again ((notLast s).testing (run n inner))
      if s.isRunning then s.withStatus (if s.status = 0 then 1 else 0) else s
    | .both first second =>
      let s := again ((notLast s).testing (run n first))
      if s.isRunning && s.status = 0 then run n second s else s
    | .either first second =>
      let s := again ((notLast s).testing (run n first))
      if s.isRunning && s.status ≠ 0 then run n second s else s
    | .sequence first second =>
      let s := again (run n first (notLast s))
      if s.isRunning then run n second s else s
    | .background inner =>
      let after := runSubshell n inner { s with tests := 0 } (s.enterJob.openInput 0 [])
      after.leaveJob s
    | .conditional test yes no =>
      let s := again ((notLast s).testing (run n test))
      if !s.isRunning then s else if s.status = 0 then run n yes s else run n no s
    | .loop goOn test body =>
      let after := runLoop n goOn test body 0 { notLast s with loops := s.loops + 1 }
      again { after with loops := s.loops }
    | .each line name words body =>
      let (values, s) := Expansion.words (capture n) n words { s with line := line }
      if s.isRunning then
        let after := runEach n name values body
          { notLast (s.withStatus 0) with loops := s.loops + 1 }
        { after with loops := s.loops, isLast := s.isLast }
      else s
    | .choice line word branches =>
      let (text, s) := Expansion.text (capture n) n word { s with line := line }
      if s.isRunning then choose n text branches (s.withStatus 0) else s
    | .definition name body =>
      { s with functions := s.functions.insert name body, status := 0 }
  termination_by structural budget
end

def stepBudget : Nat := 1000000

/-- Starts what a name led to, unless there is no time for it. -/
def State.launch (s : State) (action : Action) (name : String) (arguments : List String) : State :=
  if s.isRunning then carryOut stepBudget action name arguments s else s

end BuildPipeline.Shell
