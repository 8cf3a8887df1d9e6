import BuildPipeline.FileSystem.Basic

/-!
Operations that change a file system. Each gives its outcome and the file system afterwards; a
failed one leaves the tree as it was, except for a write that broke off.
-/
namespace BuildPipeline.FileSystem

abbrev Outcome (α : Type) := Except IoError α × FileSystem

def put (fs : FileSystem) (names : List String) (n : Node) : FileSystem :=
  { fs with root := fs.root.set names n }

def takeAway (fs : FileSystem) (names : List String) : FileSystem :=
  { fs with root := fs.root.erase names }

/-- Path without the slashes at its end, which a new folder's path may have. -/
def withoutEndSlash (p : Path) : Path :=
  let chars := (p.text.toList.reverse.dropWhile (· = '/')).reverse
  if chars.isEmpty then p else ⟨String.ofList chars⟩

def makeFolder (fs : FileSystem) (p : Path) : Outcome Unit :=
  match fs.nextFault with
  | (some fault, fs) => (.error fault.error, fs)
  | (none, fs) =>
    match fs.locate (withoutEndSlash p) .entry with
    | .error e => (.error e, fs)
    | .ok ⟨names, none⟩ => (.ok (), fs.put names (.folder []))
    | .ok ⟨_, some _⟩ => (.error .alreadyExists, fs)

/-- A failed attempt is forgiven if the folder is there anyway. -/
def forgive (fs : FileSystem) (p : Path) (e : IoError) : Outcome Unit :=
  if fs.isFolder p then (.ok (), fs) else (.error e, fs)

def makeFolders (fs : FileSystem) : List Path → Outcome Unit
  | [] => (.ok (), fs)
  | p :: rest =>
    match fs.makeFolder p with
    | (.ok (), fs) => fs.makeFolders rest
    | (.error e, fs) => match fs.forgive p e with
      | (.ok (), fs) => fs.makeFolders rest
      | (.error e, fs) => (.error e, fs)

/-- A path and what it lies in, longest first, ending before a root or an empty path. -/
def ancestors (p : Path) : List Path :=
  let cs := p.components
  p :: ((List.range cs.length).drop 1).map (fun k => Path.ofComponents (cs.take (cs.length - k)))
    |>.filter (fun q => q.components ≠ [.root] && !q.isEmpty)

/-- Goes from a path outwards to the first folder that can be made or exists, then makes the
missing ones inwards. -/
def makeOutwards (fs : FileSystem) : List Path → List Path → Outcome Unit
  | [], missing => fs.makeFolders missing
  | p :: outer, missing =>
    match fs.makeFolder p with
    | (.ok (), fs) => fs.makeFolders missing
    | (.error .notFound, fs) => fs.makeOutwards outer (p :: missing)
    | (.error e, fs) => match fs.forgive p e with
      | (.ok (), fs) => fs.makeFolders missing
      | (.error e, fs) => (.error e, fs)

def makeFolderPath (fs : FileSystem) (p : Path) : Outcome Unit :=
  if p.isEmpty then (.ok (), fs) else fs.makeOutwards (ancestors p) []

def fileTarget (fs : FileSystem) (p : Path) : Except IoError (List String) :=
  match fs.locate p .creation with
  | .error e => .error e
  | .ok ⟨_, some (.folder _)⟩ => .error .isFolder
  | .ok ⟨names, _⟩ => .ok names

/-- Gives a file new content, or makes it; a device takes the content in or refuses it. -/
def store (fs : FileSystem) (names : List String) (content : ByteArray) : Outcome Unit :=
  match fs.root.get? names with
  | some (.device .full) =>
    if content.isEmpty then (.ok (), fs) else (.error .noSpace, fs)
  | some (.device _) => (.ok (), fs)
  | some (.file _ runnable) => (.ok (), fs.put names (.file content runnable))
  | _ => (.ok (), fs.put names (.file content))

def writeBytes (fs : FileSystem) (p : Path) (content : ByteArray) : Outcome Unit :=
  match fs.nextFault with
  | (none, fs) => match fs.fileTarget p with
    | .error e => (.error e, fs)
    | .ok names => fs.store names content
  | (some ⟨error, none⟩, fs) => (.error error, fs)
  | (some ⟨error, some n⟩, fs) => match fs.fileTarget p with
    | .error e => (.error e, fs)
    | .ok names => (.error error, (fs.store names (content.extract 0 n)).2)

def writeText (fs : FileSystem) (p : Path) (text : String) : Outcome Unit :=
  fs.writeBytes p text.toUTF8

def removeFile (fs : FileSystem) (p : Path) : Outcome Unit :=
  match fs.nextFault with
  | (some fault, fs) => (.error fault.error, fs)
  | (none, fs) => match fs.locate p .entry with
    | .error e => (.error e, fs)
    | .ok ⟨_, none⟩ => (.error .notFound, fs)
    | .ok ⟨_, some (.folder _)⟩ => (.error .isFolder, fs)
    | .ok ⟨names, some _⟩ => (.ok (), fs.takeAway names)

def rename (fs : FileSystem) (p q : Path) : Outcome Unit :=
  match fs.nextFault with
  | (some fault, fs) => (.error fault.error, fs)
  | (none, fs) => match fs.locate p .entry, fs.locate q .entry with
    | .error e, _ => (.error e, fs)
    | _, .error e => (.error e, fs)
    | .ok ⟨_, none⟩, _ => (.error .notFound, fs)
    | .ok _, .ok ⟨_, some (.folder _)⟩ => (.error .isFolder, fs)
    | .ok ⟨source, some n⟩, .ok ⟨target, _⟩ =>
      if source = target then (.ok (), fs) else (.ok (), (fs.takeAway source).put target n)

def mark (fs : FileSystem) (p : Path) (runnable : Bool) : FileSystem :=
  match fs.fileTarget p with
  | .error _ => fs
  | .ok names => match fs.root.get? names with
    | some (.file content _) => fs.put names (.file content runnable)
    | _ => fs

/-- Copies a file: the source is opened, the target emptied, then what the source holds is written.
A file copied onto itself is therefore emptied. The copy can be run if the source can. -/
def copyFile (fs : FileSystem) (source target : Path) : Outcome Unit :=
  match fs.stat source with
  | .error e => (.error e, fs)
  | .ok (.file _ runnable) => match fs.writeBytes target ByteArray.empty with
    | (.error e, fs) => (.error e, fs)
    | (.ok (), fs) =>
      let fs := fs.mark target runnable
      match fs.readBytes source with
      | .error e => (.error e, fs)
      | .ok content => fs.writeBytes target content
  | .ok _ => (.error .notRegular, fs)

def makeLink (fs : FileSystem) (p : Path) (target : String) : Outcome Unit :=
  match fs.locate p .entry with
  | .error e => (.error e, fs)
  | .ok ⟨names, none⟩ => (.ok (), fs.put names (.link target))
  | .ok ⟨_, some _⟩ => (.error .alreadyExists, fs)

end BuildPipeline.FileSystem
