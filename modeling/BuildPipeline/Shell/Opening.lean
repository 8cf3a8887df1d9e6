import BuildPipeline.Shell.Builtins.Basic
import BuildPipeline.Shell.Tools.Basic

/-!
Redirections: making descriptors lead to files and to where others lead.
-/
namespace BuildPipeline.Shell.State

/-- Fails to redirect, with a message; whoever asked for it decides what that means. -/
def refuse (s : State) (text : String) : Except State State :=
  .error ((s.complain text).withStatus 2)

/-- Makes a descriptor lead where another one leads, if that leads anywhere. -/
def copyStream (s : State) (descriptor source : Nat) : Except State State :=
  match s.stream? source with
  | some stream => .ok (s.direct descriptor (some stream))
  | none => s.refuse (toString source ++ ": Bad file descriptor")

def openingFault (missing : String) (e : IoError) : String :=
  if e = .notFound || e = .notFolder then missing else Tools.faultText e

def openSource (s : State) (descriptor : Nat) (name : String) : Except State State :=
  match s.files.stat ⟨name⟩ with
  | .ok (.device (.descriptor n)) => s.copyStream descriptor n
  | .ok (.folder _) => .ok (s.direct descriptor (some .folder))
  | .ok n => .ok (s.openInput descriptor (n.content?.getD .empty).toList n.isFile)
  | .error e => s.refuse ("cannot open " ++ name ++ ": " ++ openingFault "No such file" e)

/-- Opens a file to be written. What is there already is emptied or kept. -/
def openTarget (s : State) (descriptor : Nat) (empties append guarded : Bool) (name : String) :
    Except State State :=
  let refused (text : String) : Except State State :=
    s.refuse ("cannot create " ++ name ++ ": " ++ text)
  match s.files.stat ⟨name⟩ with
  | .ok (.device (.descriptor n)) => s.copyStream descriptor n
  | there =>
    let isFile := match there with
      | .ok n => n.isFile
      | .error _ => false
    if guarded && isFile then refused "File exists"
    else match s.files.fileTarget ⟨name⟩ with
      | .error e => refused (openingFault "Directory nonexistent" e)
      | .ok names =>
        let files := if empties || (s.files.root.get? names).isNone then
            (s.files.store names .empty).2
          else s.files
        .ok ({ s with files := files }.direct descriptor (some (.file names append)))

def openFile (s : State) (descriptor : Nat) (opening : Opening) (name : String) :
    Except State State :=
  match opening with
  | .read => s.openSource descriptor name
  | .write forced => s.openTarget descriptor true false (s.isOn 'C' && !forced) name
  | .append => s.openTarget descriptor false true false name
  | .readWrite => do
    let made ← s.openTarget descriptor false false false name
    if descriptor = 0 then made.openSource descriptor name else return made

/-- Makes a descriptor lead where another one leads, or nowhere. -/
def duplicate (s : State) (descriptor : Nat) (source : String) : Except State State :=
  match source.toList with
  | ['-'] => .ok (s.direct descriptor none)
  | [c] =>
    if c.isDigit then s.copyStream descriptor (c.toNat - 48)
    else .error (s.abort "Syntax error: Bad fd number")
  | _ => .error (s.abort "Syntax error: Bad fd number")

end BuildPipeline.Shell.State
