/-!
Trees of folders, files, devices and symbolic links. A folder's entries stand in the order in which
they are listed.
-/
namespace BuildPipeline

inductive Device
  /-- Takes in anything and holds nothing. -/
  | null
  /-- Holds zeros without end. -/
  | zero
  /-- Holds zeros too, but takes in nothing. -/
  | full
  /-- Whatever a process has open under this number. -/
  | descriptor (number : Nat)
  deriving DecidableEq

inductive Node
  | file (content : ByteArray) (runnable : Bool := false)
  | device (d : Device)
  | link (target : String)
  | folder (entries : List (String × Node))
  deriving Inhabited

namespace Node

def find? (name : String) (entries : List (String × Node)) : Option Node := entries.lookup name

/-- Replaces the entry of this name, or lists it last. -/
def putEntry (name : String) (node : Node) : List (String × Node) → List (String × Node)
  | [] => [(name, node)]
  | e :: rest => if e.1 = name then (name, node) :: rest else e :: putEntry name node rest

def dropEntry (name : String) (entries : List (String × Node)) : List (String × Node) :=
  entries.filter (fun e => e.1 ≠ name)

/-- The node at a place below this one, no link followed. -/
def get? : Node → List String → Option Node
  | n, [] => some n
  | .folder es, name :: rest => (find? name es).bind (get? · rest)
  | _, _ :: _ => none

/-- Puts a node at a place whose folders exist; elsewhere nothing changes. -/
def set : Node → List String → Node → Node
  | _, [], new => new
  | .folder es, [name], new => .folder (putEntry name new es)
  | .folder es, name :: rest, new =>
    match find? name es with
    | some n => .folder (putEntry name (n.set rest new) es)
    | none => .folder es
  | n, _ :: _, _ => n

def erase : Node → List String → Node
  | n, [] => n
  | .folder es, [name] => .folder (dropEntry name es)
  | .folder es, name :: rest =>
    match find? name es with
    | some n => .folder (putEntry name (n.erase rest) es)
    | none => .folder es
  | n, _ :: _ => n

def isFolder : Node → Bool
  | .folder _ => true
  | _ => false

def isFile : Node → Bool
  | .file .. => true
  | _ => false

/-- The size shown for an entry; a link counts its target's text. -/
def size : Node → Nat
  | .file content _ => content.size
  | .link target => target.utf8ByteSize
  | .device _ | .folder _ => 0

/-- As many zeros as a reader takes in at once. -/
def zeros : ByteArray := ⟨Array.replicate 1048576 0⟩

def content? : Node → Option ByteArray
  | .file content _ => some content
  | .device .zero | .device .full => some zeros
  | .device _ => some .empty
  | .link _ | .folder _ => none

mutual
/-- Everything below a node with the names that lead to it, in listing order. -/
def descendants (names : List String) : Node → List (List String × Node)
  | .folder es => entryDescendants names es
  | _ => []

def entryDescendants (names : List String) : List (String × Node) → List (List String × Node)
  | [] => []
  | e :: rest =>
    (names ++ [e.1], e.2) :: (descendants (names ++ [e.1]) e.2 ++ entryDescendants names rest)
end

end Node
end BuildPipeline
