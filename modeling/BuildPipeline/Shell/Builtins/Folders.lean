import BuildPipeline.Shell.Builtins.Basic
import BuildPipeline.Shell.Permission
import BuildPipeline.Shell.Printing

/-!
Commands for the working folder, for limits and permissions, and those that print.
-/
namespace BuildPipeline.Shell.Builtins

def walk (start : List String) (p : Path) : List String :=
  p.segments.foldl
    (fun names n => if n = "." then names else if n = ".." then names.dropLast else names ++ [n])
    (if p.isAbsolute then [] else start)

def absolute (names : List String) : String := "/" ++ (Path.ofNames names).text

def reached (s : State) (target : String) : String :=
  absolute (walk (Path.segments ⟨s.folderPath⟩) ⟨target⟩)

/-- Enters a folder, if it is one, and keeps the paths of the old and the new one in variables. -/
def enter? (s : State) (physical : Bool) (target : String) : Option State :=
  let path := if physical then target else reached s target
  match s.files.stat ⟨path⟩, s.files.canonical ⟨path⟩ with
  | .ok (.folder _), .ok names =>
    let path := if physical then absolute names else path
    let s := (s.store "OLDPWD" s.folderPath).markExported "OLDPWD"
    let s := (s.store "PWD" path).markExported "PWD"
    some { s with files := { s.files with workingFolder := names }, folderPath := path }
  | _, _ => none

/-- Whether a path says itself where it begins. -/
def isRooted (target : String) : Bool :=
  match (Path.mk target).segments with
  | first :: _ => (Path.mk target).isAbsolute || first = "." || first = ".."
  | [] => (Path.mk target).isAbsolute

/-- Where a folder may lie, and whether its path is to be told. -/
def candidates (s : State) (target : String) : List (String × Bool) :=
  match s.value? "CDPATH" with
  | some places =>
    if isRooted target then [(target, false)]
    else (places.splitOn ":").map (fun p =>
        if p.isEmpty then (target, false) else (p ++ "/" ++ target, true)) ++ [(target, false)]
  | none => [(target, false)]

def cd : Builtin := withOptions "LP" "" fun options s =>
  let physical := options.last? "LP" = some 'P'
  let given := options.operands.headD ((s.value? "HOME").getD "")
  let back := options.operands.head? = some "-"
  let target := if back then (s.value? "OLDPWD").getD "" else given
  let target := if target.isEmpty then "." else target
  let entered := (candidates s target).findSome? fun c =>
    (enter? s physical c.1).map fun s => (s, c.2 || back)
  match entered with
  | some (s, tell) =>
    if !s.isRunning then s
    else if tell then emitText (s.folderPath ++ "\n") (s.withStatus 0) else s.withStatus 0
  | none => s.abort ("can't cd to " ++ target)

def pwd : Builtin := withOptions "LP" "" fun options s =>
  let path := if options.last? "LP" = some 'P' then absolute s.files.workingFolder
    else s.folderPath
  emitText (path ++ "\n") (s.withStatus 0)

def umask : Builtin := withOptions "S" "" fun options s =>
  let s := s.withStatus 0
  let granted := Permission.all - s.mask
  match options.operands with
  | [] =>
    let text := if options.has 'S' then Permission.symbolic granted
      else Permission.octalText 4 s.mask
    emitText (text ++ "\n") s
  | a :: _ =>
    if a.toList.head?.any Char.isDigit then
      match Permission.octal? a with
      | some n => { s with mask := n % 512 }
      | none => illegalNumber a s
    else match Permission.apply Permission.all granted a with
      | some n => { s with mask := Permission.all - n }
      | none => s.abort ("Illegal mode: " ++ a)

/-- Limits are never set, and those that are asked for do not exist. -/
def ulimit : Builtin := withOptions "HSatfdscmlpnvwre" "" fun options s =>
  if options.operands.isEmpty then emitText "unlimited\n" (s.withStatus 0) else s.withStatus 0

/-- Times that the shell and its commands took; none took any that could be told. -/
def times : Builtin := fun _ s =>
  let row := "0m0.000000s 0m0.000000s\n"
  emitText (row ++ row) (s.withStatus 0)

def echo : Builtin := fun arguments s => emit (Printing.echo arguments) (s.withStatus 0)

def printf : Builtin := withOptions "" "" fun options s =>
  match options.operands with
  | [] => s.abort "usage: printf format [arg ...]"
  | format :: values =>
    let p := Printing.printf format values
    let s := p.complaints.foldl (fun s c => s.complain c) s
    emit p.bytes.toList (s.withStatus p.status)

end BuildPipeline.Shell.Builtins
