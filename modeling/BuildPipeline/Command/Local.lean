import BuildPipeline.Command.Host
import BuildPipeline.Shell.Run

/-!
The shell of the system: how it is found and started on a command's text, and what it came to.
-/
namespace BuildPipeline
namespace Shell

def hasNul (s : String) : Bool := s.toList.contains (Char.ofNat 0)

/-- Whether a text that the shell is started with cannot be handed over. -/
def isUnspeakable (command : String) (folder : Path) (env : SortedMap String) : Bool :=
  hasNul command || hasNul folder.text || env.entries.any fun e => hasNul e.1 || hasNul e.2

/-- The first of some files that can be run. Files that are missing or may not be run let the search
go on; any other fault ends it. -/
def searchProgram (files : FileSystem) (denied : Bool) (last : IoError) :
    List String → Except IoError String
  | [] => .error (if denied then .accessDenied else last)
  | path :: rest => match files.stat ⟨path⟩ with
    | .ok (.file _ true) => .ok path
    | .ok _ => searchProgram files true last rest
    | .error e =>
      if e = .notFound ∨ e = .notFolder then searchProgram files denied e rest else .error e

/-- The folders in which the shell is looked for if the environment does not say. -/
def usualFolders : String := "/bin:/usr/bin"

/-- The shell as it is found from a folder, and the files as they are seen from there; or why none
can be started. -/
def find (command : String) (folder : Path) (env : SortedMap String) (files : FileSystem) :
    Except String (Action × FileSystem) :=
  if isUnspeakable command folder env then .error "nul byte found in provided data"
  else match files.list folder, files.canonical folder with
    | .error e, _ | _, .error e => .error e.message
    | .ok _, .ok names =>
      let files := { files with workingFolder := names }
      let paths := Action.candidates ((env.get? "PATH").getD usualFolders) "sh"
      match searchProgram files false .notFound paths with
      | .error e => .error e.message
      | .ok path => match Action.start files 5 path [] with
        | .absent e => .error e.message
        | action =>
          if Handover.fits ⟨["sh", "-c", command], env.entries⟩ then .ok (action, files)
          else .error IoError.argumentsTooLong.message

/-- The state in which a command begins: all variables are exported. -/
def begin (env : SortedMap String) (limit : Count) (files : FileSystem) : State :=
  { files := files
    bindings := .ofList (env.entries.map fun e => (e.1, ⟨some e.2, true, false⟩))
    isLast := true
    limit := limit.toNat }

def State.ending (s : State) : ShellEnd where
  stdout := s.stdout.content
  stderr := s.stderr.content
  elapsed := s.elapsed
  overdue := s.overdue
  exitCode := match s.fate with
    | .killed _ => none
    | _ => some s.status

def system : CommandShell := fun command folder env limit files =>
  match find command folder env files with
  | .error fault => (.error fault, files)
  | .ok (action, inside) =>
    let s := ((begin env limit inside).wait 0).launch action "sh" ["-c", command]
    (.ok s.ending, { s.files with workingFolder := files.workingFolder })

end Shell

def LocalHost.runner (h : LocalHost) : Runner Unit := h.runnerIn Shell.system

end BuildPipeline
