import BuildPipeline.Shell.Lexical
import BuildPipeline.Shell.State

/-!
How a shell begins: its variables, and what its arguments tell it to run.
-/
namespace BuildPipeline.Shell

/-! ### Variables -/

/-- Where programs are found if nothing is said of it. -/
def defaultPath : String := "/usr/local/sbin:/usr/local/bin:/usr/sbin:/usr/bin:/sbin:/bin"

def ownVariables : List (String × String) :=
  [("IFS", " \t\n"), ("OPTIND", "1"), ("PATH", defaultPath),
    ("PPID", toString State.parentProcess), ("PS1", "# "), ("PS2", "> "), ("PS4", "+ ")]

/-- Variables whose values a shell does not take from outside. -/
def resetVariables : List String := ["IFS", "OPTIND", "PPID"]

/-- A variable as it stands in an environment: one text, in which the name ends at the first
character that no name has. That has to be the equals sign. -/
def readVariable? (entry : String) : Option (String × String) :=
  let name := entry.toList.takeWhile Reader.isNameChar
  match entry.toList.drop name.length with
  | '=' :: value =>
    if Reader.isName name then some (String.ofList name, String.ofList value) else none
  | _ => none

def firstVariables (environment : List (String × String)) : SortedMap Variable :=
  let own : SortedMap Variable :=
    .ofList (ownVariables.map fun v => (v.1, ⟨some v.2, false, false⟩))
  let given := environment.filterMap fun e => readVariable? (e.1 ++ "=" ++ e.2)
  let all := given.foldl (fun vs v => vs.insert v.1 ⟨some v.2, true, false⟩) own
  resetVariables.foldl (fun vs name => match vs.get? name, ownVariables.lookup name with
    | some v, some value => vs.insert name { v with value := some value }
    | _, _ => vs) all

/-- Takes the path of the working folder from its variable, if that is right. -/
def State.settleFolder (s : State) : State :=
  let own := "/" ++ (Path.ofNames s.files.workingFolder).text
  let path := match s.value? "PWD" with
    | some p =>
      if p.startsWith "/" && (s.files.canonical ⟨p⟩).toOption = some s.files.workingFolder then p
      else own
    | none => own
  { (s.assign "PWD" path).markExported "PWD" with folderPath := path }

/-! ### Arguments -/

structure Invocation where
  text : Option String := none
  file : Option String := none
  name : String
  arguments : List String := []
  options : List Char := []

/-- Options of a shell up to its first operand. Whether the text to run comes next is told too. -/
def readOptions (budget : Nat) (wantsText : Bool) (options : List Char)
    (arguments : List String) : Except String (Bool × List Char × List String) :=
  match budget, arguments with
  | n + 1, a :: rest => match a.toList with
    | [sign] =>
      if sign = '-' || sign = '+' then .ok (wantsText, options, rest)
      else .ok (wantsText, options, arguments)
    | '-' :: '-' :: [] => .ok (wantsText, options, rest)
    | sign :: cs =>
      if sign ≠ '-' && sign ≠ '+' then .ok (wantsText, options, arguments)
      else
        let letters := cs.filter fun c => c ≠ 'c' && c ≠ 'o' && c ≠ 'l'
        match letters.find? fun c => !State.optionLetters.contains c with
        | some c => .error ("Illegal option -" ++ c.toString)
        | none =>
          let others := options.filter fun c => !letters.contains c
          let rest := if cs.contains 'o' then rest.drop 1 else rest
          readOptions n (wantsText || cs.contains 'c')
            (if sign = '-' then letters ++ others else others) rest
    | [] => .ok (wantsText, options, arguments)
  | _, rest => .ok (wantsText, options, rest)

def Invocation.read (name : String) (arguments : List String) : Except String Invocation := do
  let (wantsText, options, rest) ← readOptions (arguments.length + 1) false [] arguments
  if wantsText then
    match rest with
    | [] => .error "-c requires an argument"
    | text :: more =>
      return {
        text := some text, name := more.headD name, arguments := more.drop 1, options := options }
  else if options.contains 's' then return { name := name, arguments := rest, options := options }
  else match rest with
    | [] => return { name := name, options := options }
    | file :: more =>
      return { file := some file, name := file, arguments := more, options := options }

/-- The state in which a shell of its own begins: it sees what is exported, and little else. -/
def State.enterShell (s : State) (i : Invocation) : State :=
  State.settleFolder
    { s.enterSubshell with
      bindings := firstVariables s.exported
      functions := .empty
      aliases := .empty
      found := []
      name := i.name
      arguments := i.arguments
      frames := []
      optionIndex := 1
      optionPlace := none
      options := i.options
      speaker := none
      line := 1
      loops := 0
      tests := 0
      isMain := true
      lastProcess := none
      posted := []
      status := 0 }

end BuildPipeline.Shell
