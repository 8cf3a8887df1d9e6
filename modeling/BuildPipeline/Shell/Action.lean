import BuildPipeline.Shell.Builtins.Folders
import BuildPipeline.Shell.Builtins.Reading
import BuildPipeline.Shell.Builtins.Signals
import BuildPipeline.Shell.Builtins.Tests
import BuildPipeline.Shell.Builtins.Variables
import BuildPipeline.Shell.Handover
import BuildPipeline.Shell.Installation

/-!
What the name of a command leads to: a function, a command of the shell, or a program that is found
among the files.
-/
namespace BuildPipeline.Shell

inductive Carrier
  /-- Runs its arguments as a text, or a file. -/
  | evaluate
  | source
  /-- Runs another command in place of the shell, or past functions. -/
  | replace
  | plainly
  /-- Tells what names lead to. -/
  | describe
  /-- Remembers where programs are. -/
  | remember
  deriving DecidableEq

inductive Program
  | tool (t : Tool)
  | shell
  /-- Starts a program with other variables. -/
  | withVariables
  /-- Starts a program with arguments that are read. -/
  | withInput
  /-- Starts a program for what is found in a tree. -/
  | search
  /-- Starts a program that has only so much time. -/
  | limited
  /-- Starts a program as it is, after options of which some take values. -/
  | wrapper (valued : String)
  | locate

inductive Action
  | special (b : Builtin)
  | regular (b : Builtin)
  | carrier (c : Carrier)
  | function (body : Command)
  /-- A program and the arguments that it is given before others. -/
  | program (p : Program) (before : List String)
  /-- A text that a shell of its own runs. -/
  | script (path text : String)
  | absent (e : IoError)

namespace Action

def specials : List (String × Builtin) :=
  [(":", Builtins.constant 0), ("export", Builtins.exporting), ("readonly", Builtins.protecting),
    ("unset", Builtins.unset), ("set", Builtins.set), ("trap", Builtins.trap),
    ("shift", Builtins.shift), ("times", Builtins.times), ("local", Builtins.localize),
    ("exit", stop .exited), ("return", stop .returning), ("break", leave false),
    ("continue", leave true)]
where
  /-- Stops in some way, with a status that may be given. -/
  stop (fate : Fate) : Builtin := fun arguments s =>
    match arguments with
    | [] => { s with fate := fate }
    | a :: _ => match Builtins.number? a with
      | some n => { s with status := n, fate := fate }
      | none => Builtins.illegalNumber a s
  /-- Leaves loops, no more than there are. -/
  leave (again : Bool) : Builtin := fun arguments s =>
    match Builtins.number? (arguments.headD "1") with
    | none | some 0 => Builtins.illegalNumber (arguments.headD "") s
    | some n =>
      let s := s.withStatus 0
      match min n s.loops with
      | 0 => s
      | k + 1 => { s with fate := .leaving k again }

def regulars : List (String × Builtin) :=
  [("true", Builtins.constant 0), ("false", Builtins.constant 1), ("cd", Builtins.cd),
    ("chdir", Builtins.cd), ("pwd", Builtins.pwd), ("echo", Builtins.echo),
    ("printf", Builtins.printf), ("kill", Builtins.kill), ("test", Builtins.test),
    ("[", Builtins.bracket), ("wait", Builtins.await), ("read", Builtins.read),
    ("umask", Builtins.umask), ("ulimit", Builtins.ulimit), ("getopts", Builtins.getopts),
    ("alias", Builtins.aliases), ("unalias", Builtins.unalias), ("fg", Builtins.moveJob),
    ("bg", Builtins.moveJob), ("jobs", Builtins.jobs)]

def carriers : List (String × Carrier) :=
  [("eval", .evaluate), (".", .source), ("exec", .replace), ("command", .plainly),
    ("type", .describe), ("hash", .remember)]

def builtin? (name : String) : Option Action :=
  match carriers.lookup name, specials.lookup name, regulars.lookup name with
  | some c, _, _ => some (.carrier c)
  | _, some b, _ => some (.special b)
  | _, _, some b => some (.regular b)
  | none, none, none => none

def isSpecial : Action → Bool
  | .special _ => true
  | .carrier c => c = .evaluate || c = .source || c = .replace
  | _ => false

/-! ### Programs -/

def programNamed? (name : String) : Option Program :=
  match name with
  | "sh" | "dash" | "bash" => some .shell
  | "env" => some .withVariables
  | "xargs" => some .withInput
  | "find" => some .search
  | "timeout" => some .limited
  | "nice" => some (.wrapper "n")
  | "nohup" | "setsid" => some (.wrapper "")
  | "stdbuf" => some (.wrapper "ioe")
  | "which" => some .locate
  | name => (Tools.table.lookup name).map .tool

/-- The interpreter that a script names in its first line, and an argument for it. -/
def interpreter? (text : List Char) : Option (String × List String) :=
  match text with
  | '#' :: '!' :: rest =>
    let isBlank (c : Char) : Bool := c = ' ' || c = '\t'
    let line := (rest.takeWhile (· ≠ '\n')).dropWhile isBlank
    let path := line.takeWhile fun c => !isBlank c
    let argument := (((line.drop path.length).dropWhile isBlank).reverse.dropWhile isBlank).reverse
    some (String.ofList path, if argument.isEmpty then [] else [String.ofList argument])
  | _ => none

/-- What starting the file at a path means; interpreters may be scripts themselves. -/
def start (files : FileSystem) (budget : Nat) (path : String) (before : List String) : Action :=
  match budget, files.stat ⟨path⟩ with
  | 0, _ => .absent .tooManyLinks
  | _, .error e => .absent e
  | n + 1, .ok (.file content runnable) =>
    if !runnable then .absent .accessDenied
    else match Installation.programOf? content with
      | some name => match programNamed? name with
        | some p => .program p before
        | none => .absent .notFound
      | none =>
        let text := Text.decodeBytes content.toList
        match interpreter? text with
        | some (interpreter, argument) =>
          start files n interpreter (argument ++ path :: before)
        | none => .script path (String.ofList text)
  | _, .ok _ => .absent .accessDenied

def candidates (searchPath name : String) : List String :=
  (searchPath.splitOn ":").map fun folder => if folder.isEmpty then name else folder ++ "/" ++ name

/-- The first file that can be run among some paths, or the last fault that is worth telling. -/
def locateAmong (files : FileSystem) (worst : IoError) : List String → Except IoError String
  | [] => .error worst
  | path :: rest => match files.stat ⟨path⟩ with
    | .ok (.file _ true) => .ok path
    | .ok _ => locateAmong files .accessDenied rest
    | .error e =>
      locateAmong files (if e = .notFound || e = .notFolder then worst else e) rest

def locate (s : State) (searchPath name : String) : Except IoError String :=
  match s.found.lookup name with
  | some path => .ok path
  | none => locateAmong s.files .notFound (candidates searchPath name)

def searchPath (s : State) : String := (s.value? "PATH").getD ""

def ofProgram (s : State) (searchPath name : String) : Action :=
  if name.toList.contains '/' then start s.files 5 name []
  else if name.isEmpty then .absent .accessDenied
  else match locate s searchPath name with
    | .ok path => start s.files 5 path []
    | .error e => .absent e

/-- The same, unless it is a program that cannot be given so much. -/
def given (a : Action) (s : State) (name : String) (arguments : List String) : Action :=
  match a with
  | .program .. | .script .. =>
    if Handover.fits ⟨name :: arguments, s.exported⟩ then a else .absent .argumentsTooLong
  | a => a

def findPlain (s : State) (name : String) : Action :=
  (builtin? name).getD (ofProgram s (searchPath s) name)

def find (s : State) (name : String) : Action :=
  match specials.lookup name, s.functions.get? name with
  | none, some body => .function body
  | _, _ => findPlain s name

/-! ### What names lead to, in words -/

def path? (s : State) (searchPath name : String) : Option String :=
  if name.toList.contains '/' then (if s.files.existsAt ⟨name⟩ then some name else none)
  else (locate s searchPath name).toOption

def describe (s : State) (searchPath name : String) : Option String :=
  if Reader.keywords.contains name then some " is a shell keyword"
  else match s.aliases.get? name with
    | some text => some (" is an alias for " ++ text)
    | none =>
      if (s.functions.get? name).isSome then some " is a shell function"
      else match builtin? name with
        | some a => some (if a.isSpecial then " is a special shell builtin"
            else " is a shell builtin")
        | none => (path? s searchPath name).map fun path =>
          (if (s.found.lookup name).isSome then " is a tracked alias for " else " is ") ++ path

def reach (s : State) (searchPath name : String) : Option String :=
  if Reader.keywords.contains name then some name
  else match s.aliases.get? name with
    | some text => some ("alias " ++ name ++ "=" ++ Builtins.quoted text)
    | none =>
      if (s.functions.get? name).isSome || (builtin? name).isSome then some name
      else path? s searchPath name

/-- Tells what names lead to, in words or in few. -/
def tell (verbose : Bool) (searchPath : String) (names : List String) (s : State) : State :=
  let lines := names.map fun name =>
    if verbose then match describe s searchPath name with
      | some text => (true, name ++ text ++ "\n")
      | none => (false, name ++ ": not found\n")
    else match reach s searchPath name with
      | some text => (true, text ++ "\n")
      | none => (false, "")
  Builtins.emitText (String.join (lines.map (·.2)))
    (s.withStatus (if lines.all (·.1) then 0 else 127))

/-- Remembers where programs are, or tells what is remembered. -/
def remember : Builtin := Builtins.withOptions "rv" "" fun options s =>
  let s := s.withStatus 0
  if options.has 'r' then { s with found := [] }
  else if options.operands.isEmpty then
    Builtins.emitText (String.join (s.found.map fun f => f.2 ++ "\n")) s
  else
    Builtins.eachArgument (fun name s =>
      if (builtin? name).isSome || (s.functions.get? name).isSome then s
      else match locate s (searchPath s) name with
        | .ok path => { s with found := (s.found.filter (·.1 ≠ name)) ++ [(name, path)] }
        | .error _ => (s.complain (name ++ ": not found")).withStatus 1)
      options.operands s

end Action
end BuildPipeline.Shell
