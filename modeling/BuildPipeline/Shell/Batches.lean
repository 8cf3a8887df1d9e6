import BuildPipeline.Shell.Builtins.Basic
import BuildPipeline.Shell.Handover
import BuildPipeline.Shell.Tools.Table

/-!
What programs that start others make of their arguments: the lists of arguments that they read, and
the variables that they set.
-/
namespace BuildPipeline.Shell

def inputWords (budget : Nat) (current : Option (List Char)) (cs : List Char) : List String :=
  let done : List String := (current.map fun w => String.ofList w.reverse).toList
  match budget, cs with
  | 0, _ | _, [] => done
  | n + 1, '\\' :: c :: rest => inputWords n (some (c :: current.getD [])) rest
  | n + 1, c :: rest =>
    if c = '\'' || c = '"' then
      let inner := rest.takeWhile (· ≠ c)
      inputWords n (some (inner.reverse ++ current.getD [])) (rest.drop (inner.length + 1))
    else if c.isWhitespace then done ++ inputWords n none rest
    else inputWords n (some (c :: current.getD [])) rest

def inputBatches (options : Options) (command : List String) (input : Bytes) :
    List (List String) :=
  let text := Text.decodeBytes input
  let separator := if options.has '0' then some (Char.ofNat 0)
    else (options.value? 'd').map fun d =>
      if d = "\\n" then '\n' else if d = "\\0" then Char.ofNat 0
      else if d = "\\t" then '\t' else d.toList.headD '\n'
  let pieces (c : Char) : List String :=
    let all := (String.ofList text).splitOn c.toString
    if all.getLast? = some "" then all.dropLast else all
  match options.value? 'I' with
  | some mark =>
    let lines := match separator with
      | some c => pieces c
      | none => (pieces '\n').map fun (l : String) =>
        String.ofList (l.toList.dropWhile Char.isWhitespace)
    (lines.filter (· ≠ "")).map fun (line : String) =>
      command.map fun w => line.intercalate (w.splitOn mark)
  | none =>
    let words := match separator with
      | some c => pieces c
      | none => inputWords (text.length + 1) none text
    let size := match (options.value? 'n').bind String.toNat?, (options.value? 'L') with
      | some n, _ => max 1 n
      | none, _ => words.length + 1
    let batches := match options.value? 'L', separator with
      | some _, none => (pieces '\n').map fun (l : String) =>
          inputWords (l.length + 1) none l.toList
      | _, _ =>
        let used := Handover.roomOfAll 0 command
        groupsOf (Handover.roomForOne - used) size words
    let batches := batches.filter fun (b : List String) => !b.isEmpty
    if batches.isEmpty then (if options.has 'r' then [] else [command])
    else batches.map fun b => command ++ b

/-- Assignments at the front of arguments, and the command after them. -/
def splitAssignments (arguments : List String) : List (String × String) × List String :=
  let given := arguments.takeWhile fun a => a.toList.contains '=' && !a.startsWith "="
  (given.map fun a =>
      let (name, value) := Builtins.splitAssignment a
      (name, value.getD ""),
    arguments.drop given.length)

def changedVariables (options : Options) (assignments : List (String × String)) (s : State) :
    List (String × String) :=
  let kept := if options.has 'i' then [] else Tools.environment s
  let dropped := options.given.filterMap fun g => if g.1 = 'u' then some g.2 else none
  assignments.foldl
    (fun vs a =>
      if vs.any (·.1 = a.1) then vs.map fun v => if v.1 = a.1 then a else v else vs ++ [a])
    (kept.filter fun v => !dropped.contains v.1)

def environmentRules : OptionRules :=
  { plain := "i0v", valued := "uCS", mixed := false
    long := [("ignore-environment", 'i'), ("unset", 'u'), ("chdir", 'C'), ("null", '0')] }

def inputRules : OptionRules :=
  { plain := "0rtxpo", valued := "nIdLPsaE", mixed := false
    long := [("null", '0'), ("no-run-if-empty", 'r'), ("max-args", 'n'), ("replace", 'I'),
      ("delimiter", 'd'), ("max-lines", 'L'), ("max-procs", 'P'), ("verbose", 't')] }

def limitRules : OptionRules :=
  { plain := "fpv", valued := "sk", mixed := false
    long := [("signal", 's'), ("kill-after", 'k'), ("preserve-status", 'p'), ("foreground", 'f')] }

end BuildPipeline.Shell
