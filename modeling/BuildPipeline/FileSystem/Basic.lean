import BuildPipeline.FileSystem.IoError
import BuildPipeline.FileSystem.Node
import BuildPipeline.Path

/-!
A file system: one tree, a working folder, and the faults that coming operations will meet. Paths
are followed from the working folder, links included.
-/
namespace BuildPipeline

/-- What an operation meets instead of success. A write may already have made the file and put some
bytes into it. -/
structure Fault where
  error : IoError
  written : Option Nat := none

structure FileSystem where
  root : Node
  /-- Names that lead from the root to the working folder, none of them a link. -/
  workingFolder : List String
  /-- One entry for each operation to come that changes something; beyond them nothing fails. -/
  faults : List (Option Fault) := []

namespace FileSystem

/-- Where a path leads: the place it names, links followed, and what is there. -/
structure Place where
  names : List String
  node : Option Node

def maxLinks : Nat := 40

def maxNameBytes : Nat := 255

def maxPathBytes : Nat := 4095

inductive Purpose
  /-- The entry itself, even if it is a link. -/
  | entry
  | target
  /-- The place of a file that may be made there, which no slash may follow. -/
  | creation
  deriving DecidableEq

/-- The segments of a path; an empty one at the end stands for a slash there. -/
def steps (p : Path) : List String :=
  if p.endsInSlash then p.segments ++ [""] else p.segments

/-- Follows segments from the folder at `here`. Only the last one may be missing. -/
def follow (root : Node) (purpose : Purpose) (budget : Nat) (here : List String)
    (segments : List String) : Except IoError Place :=
  match segments with
  | [] => .ok ⟨here, root.get? here⟩
  | s :: rest =>
    if s = "." ∨ s = "" then follow root purpose budget here rest
    else if s = ".." then follow root purpose budget here.dropLast rest
    else if maxNameBytes < s.utf8ByteSize then .error .nameTooLong
    else if purpose = .creation ∧ rest = [""] then .error .isFolder
    else
      match root.get? (here ++ [s]) with
      | none => if rest.isEmpty then .ok ⟨here ++ [s], none⟩ else .error .notFound
      | some (.folder _) => follow root purpose budget (here ++ [s]) rest
      | some (.link target) =>
        if rest.isEmpty ∧ purpose = .entry then .ok ⟨here ++ [s], some (.link target)⟩
        else match budget with
          | 0 => .error .tooManyLinks
          | budget + 1 =>
            let target : Path := ⟨target⟩
            follow root purpose budget (if target.isAbsolute then [] else here)
              (steps target ++ rest)
      | some n => if rest.isEmpty then .ok ⟨here ++ [s], some n⟩ else .error .notFolder
  termination_by (budget, segments.length)

def hasNul (p : Path) : Bool := p.text.toList.contains (Char.ofNat 0)

def locate (fs : FileSystem) (p : Path) (purpose : Purpose) : Except IoError Place :=
  if hasNul p then .error .nulInPath
  else if p.isEmpty then .error .notFound
  else if maxPathBytes < p.text.utf8ByteSize then .error .nameTooLong
  else follow fs.root purpose maxLinks (if p.isAbsolute then [] else fs.workingFolder) (steps p)

def stat (fs : FileSystem) (p : Path) : Except IoError Node :=
  match fs.locate p .target with
  | .error e => .error e
  | .ok place => match place.node with
    | some n => .ok n
    | none => .error .notFound

def existsAt (fs : FileSystem) (p : Path) : Bool := (fs.stat p).isOk

def isFolder (fs : FileSystem) (p : Path) : Bool :=
  match fs.stat p with
  | .ok n => n.isFolder
  | .error _ => false

def readBytes (fs : FileSystem) (p : Path) : Except IoError ByteArray :=
  match fs.stat p with
  | .error e => .error e
  | .ok n => match n.content? with
    | some content => .ok content
    | none => .error .isFolder

def readText (fs : FileSystem) (p : Path) : Except IoError String :=
  match fs.readBytes p with
  | .error e => .error e
  | .ok content => match String.fromUTF8? content with
    | some s => .ok s
    | none => .error .notText

def list (fs : FileSystem) (p : Path) : Except IoError (List (String × Node)) :=
  match fs.stat p with
  | .error e => .error e
  | .ok (.folder es) => .ok es
  | .ok _ => .error .notFolder

def canonical (fs : FileSystem) (p : Path) : Except IoError (List String) :=
  match fs.locate p .target with
  | .error e => .error e
  | .ok place => if place.node.isSome then .ok place.names else .error .notFound

def nextFault (fs : FileSystem) : Option Fault × FileSystem :=
  match fs.faults with
  | [] => (none, fs)
  | f :: rest => (f, { fs with faults := rest })

end FileSystem
end BuildPipeline
