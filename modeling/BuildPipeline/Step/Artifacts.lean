import BuildPipeline.Glob.Expression
import BuildPipeline.Step.Basic

/-!
Artifact creation: files of the project that match a pattern are copied into the artifacts folder,
whose content is then listed.
-/
namespace BuildPipeline.Step
variable {σ : Type}

def unsearched : List String := ["node_modules", ".git"]

structure Search where
  isMatch : List String → Bool
  skip : List Path
  opens : List String → Bool
  resolve : List String → Except IoError Node

namespace Search

/-- Whether a folder is passed over, by its place or by its name. -/
def skips (s : Search) (rel : List String) : Bool :=
  s.skip.any (fun p => p.components == rel.map Path.Component.name) ||
    (match rel.getLast? with
      | some name => unsearched.contains name
      | none => false)

/-- A matching link counts if it leads to a file; it must lead somewhere. -/
def link (s : Search) (rel : List String) : Except IoError (List (List String)) :=
  if s.isMatch rel then
    match s.resolve rel with
    | .error e => .error e
    | .ok n => .ok (if n.isFile then [rel] else [])
  else .ok []

mutual
/-- The matching files at and below a node; links are not followed into folders. -/
def collect (s : Search) (rel : List String) : Node → Except IoError (List (List String))
  | .file .. | .device _ => .ok (if s.isMatch rel then [rel] else [])
  | .link _ => s.link rel
  | .folder es => if s.skips rel || !s.opens rel then .ok [] else collectEntries s rel es

def collectEntries (s : Search) (rel : List String) :
    List (String × Node) → Except IoError (List (List String))
  | [] => .ok []
  | e :: rest =>
    match collect s (rel ++ [e.1]) e.2 with
    | .error e => .error e
    | .ok found => match collectEntries s rel rest with
      | .error e => .error e
      | .ok more => .ok (found ++ more)
end

def inFolder (fs : FileSystem) (base : Path) (isMatch : List String → Bool) (skip : List Path) :
    Search where
  isMatch := isMatch
  skip := skip
  opens rel := (fs.list (base.join (.ofNames rel))).isOk
  resolve rel := fs.stat (base.join (.ofNames rel))

end Search

def collectMatches (fs : FileSystem) (base : Path) (isMatch : List String → Bool)
    (skip : List Path) : Except IoError (List (List String)) :=
  match fs.list base with
  | .error e => .error e
  | .ok entries => (Search.inFolder fs base isMatch skip).collectEntries [] entries

/-- A name in the listing, where backslashes are written as slashes. -/
def listedName (rel : List String) : String :=
  String.ofList ((String.intercalate "/" rel).toList.map fun c => if c = '\\' then '/' else c)

def listedBefore (a b : String × Nat) : Bool := a.1 < b.1 || (a.1 = b.1 && a.2 ≤ b.2)

def filesAmong (rel : List String) (entries : List (String × Node)) :
    List (List String × Node) :=
  (entries.filter fun e => !e.2.isFolder).map fun e => (rel ++ [e.1], e.2)

def foldersAmong (rel : List String) :
    List (String × Node) → List (List String × List (String × Node))
  | [] => []
  | (name, .folder inner) :: rest => (rel ++ [name], inner) :: foldersAmong rel rest
  | _ :: rest => foldersAmong rel rest

/-- How much there is in folders that are still to be listed. -/
noncomputable def remaining : List (List String × List (String × Node)) → Nat
  | [] => 0
  | f :: pending => sizeOf f.2 + remaining pending

theorem remaining_append (pending more : List (List String × List (String × Node))) :
    remaining (pending ++ more) = remaining pending + remaining more := by
  induction pending with
  | nil => simp [remaining]
  | cons f pending ih => rw [List.cons_append, remaining, remaining, ih, Nat.add_assoc]

theorem remaining_foldersAmong (rel : List String) (entries : List (String × Node)) :
    remaining (foldersAmong rel entries) < sizeOf entries := by
  fun_induction foldersAmong rel entries with
  | case1 => simp [remaining]
  | case2 name inner rest ih => simp [remaining]; omega
  | case3 e rest h ih => simp; omega

/-- Goes through the folders below `dir` that are still to be listed, each of which must be
readable. -/
def listPending (fs : FileSystem) (dir : Path) :
    List (List String × List (String × Node)) → Except IoError (List (List String × Node))
  | [] => .ok []
  | (rel, entries) :: pending =>
    match fs.list (dir.join (.ofNames rel)) with
    | .error e => .error e
    | .ok _ => match listPending fs dir (foldersAmong rel entries ++ pending) with
      | .error e => .error e
      | .ok more => .ok (filesAmong rel entries ++ more)
  termination_by pending => remaining pending
  decreasing_by
    have hless := remaining_foldersAmong rel entries
    rw [remaining_append]
    exact Nat.add_lt_add_right hless _

def listFiles (fs : FileSystem) (dir : Path) : Except IoError (List (String × Nat)) :=
  match fs.list dir with
  | .error e => .error e
  | .ok entries => match listPending fs dir (foldersAmong [] entries) with
    | .error e => .error e
    | .ok more => .ok (((filesAmong [] entries ++ more).map
        fun f => (listedName f.1, f.2.size)).mergeSort listedBefore)

/-- Reads the patterns; the first that is none is told, and then whether the set is refused. -/
def readPatterns (patterns : List String) : Except Failure (List (List Glob.Token)) := do
  let globs ← patterns.mapM fun pattern =>
    match Glob.read pattern with
    | .ok tokens => .ok tokens
    | .error e => .error (.config (.badPattern pattern e))
  match Glob.setError? globs with
  | some e => .error (.config (.badPatterns e))
  | none => .ok globs

def matchesSome (globs : List (List Glob.Token)) (rel : List String) : Bool :=
  globs.any fun g => Glob.isMatch g (Path.ofNames rel).text

/-- The folders that are not searched: that of the artifacts and, unless its path is absolute, that
of the reports, each as it is written. -/
def skippedFolders (settings : Settings) : List Path :=
  ⟨settings.artifacts.directory⟩ ::
    (if settings.reportsDir.isAbsolute then [] else [settings.reportsDir])

def matchingFiles (settings : Settings) (globs : List (List Glob.Token)) (fs : FileSystem) :
    Except Failure (List (List String)) :=
  match collectMatches fs settings.workingDir (matchesSome globs) (skippedFolders settings) with
  | .error e => .error (.io e)
  | .ok found => .ok found

def copyInto (base target : Path) (rel : List String) (fs : FileSystem) :
    FileSystem.Outcome Unit :=
  let goal := target.join (.ofNames rel)
  match (match goal.parent? with
    | some parent => fs.makeFolderPath parent
    | none => (.ok (), fs)) with
  | (.error e, fs) => (.error e, fs)
  | (.ok (), fs) => fs.copyFile (base.join (.ofNames rel)) goal

/-- Copies files one after another, up to the first that fails. -/
def copyAll (base target : Path) : List (List String) → FileSystem → FileSystem.Outcome Unit
  | [], fs => (.ok (), fs)
  | rel :: rest, fs =>
    match copyInto base target rel fs with
    | (.error e, fs) => (.error e, fs)
    | (.ok (), fs) => copyAll base target rest fs

def collectArtifacts (settings : Settings) (target : Path) : Action σ StepRun := do
  let globs ← Action.read fun _ => readPatterns settings.artifacts.patterns
  let found ← Action.read (matchingFiles settings globs)
  Action.files (copyAll settings.workingDir target found)
  let files ← Action.files fun fs => (listFiles fs target, fs)
  let total := Count.sum (files.map fun f => Count.saturate f.2)
  return .passed (.artifacts ⟨settings.artifacts.directory, files.map (·.1), total⟩)

def artifacts (ctx : StepContext σ) : Action σ StepRun := do
  let directory := ctx.settings.artifacts.directory
  let target := ctx.path directory
  Action.files (·.makeFolderPath target)
  match ctx.settings.commands.package with
  | none => collectArtifacts ctx.settings target
  | some command =>
    let output ← ctx.command .artifacts command
    match exitFailure? output with
    | some reason => return .failed (.artifacts ⟨directory, [], 0⟩) reason
    | none => collectArtifacts ctx.settings target

end BuildPipeline.Step
