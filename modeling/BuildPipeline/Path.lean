/-!
Paths as texts, and the components that they name.
-/
namespace BuildPipeline

structure Path where
  text : String
  deriving DecidableEq, Repr, Inhabited

namespace Path

inductive Component
  | root
  | here
  | parent
  | name (s : String)
  deriving DecidableEq, Repr

/-- The pieces between slashes, empty ones too. -/
def splitSlash : List Char → List (List Char)
  | [] => [[]]
  | c :: rest =>
    if c = '/' then [] :: splitSlash rest
    else match splitSlash rest with
      | [] => [[c]]
      | piece :: pieces => (c :: piece) :: pieces

def segments (p : Path) : List String :=
  ((splitSlash p.text.toList).filter (!·.isEmpty)).map String.ofList

def isAbsolute (p : Path) : Bool := p.text.toList.head? == some '/'

def endsInSlash (p : Path) : Bool := p.text.toList.getLast? == some '/'

def isEmpty (p : Path) : Bool := p.text.isEmpty

def Component.ofSegment (s : String) : Component :=
  if s = "." then .here else if s = ".." then .parent else .name s

/-- The components; a dot counts only at the front of a relative path. -/
def components (p : Path) : List Component :=
  let parts := p.segments.map Component.ofSegment
  if p.isAbsolute then .root :: parts.filter (· ≠ .here)
  else match p.text.toList, parts with
    | '.' :: _, .here :: rest => .here :: rest.filter (· ≠ .here)
    | _, parts => parts.filter (· ≠ .here)

def same (p q : Path) : Bool := p.components == q.components

/-- `q` as seen from `p`; an absolute path stays as it is. -/
def join (p q : Path) : Path :=
  if q.isAbsolute then q
  else if p.text.isEmpty || p.endsInSlash then ⟨p.text ++ q.text⟩
  else ⟨p.text ++ "/" ++ q.text⟩

def Component.text : Component → String
  | .root => ""
  | .here => "."
  | .parent => ".."
  | .name s => s

def ofComponents : List Component → Path
  | [.root] => ⟨"/"⟩
  | cs => ⟨String.intercalate "/" (cs.map Component.text)⟩

def parent? (p : Path) : Option Path :=
  match p.components.getLast? with
  | none | some .root => none
  | some _ => some (ofComponents p.components.dropLast)

def fileName? (p : Path) : Option String :=
  match p.components.getLast? with
  | some (.name s) => some s
  | _ => none

def withSuffix (p : Path) (suffix : String) : Path := ⟨p.text ++ suffix⟩

def ofNames (names : List String) : Path := ⟨String.intercalate "/" names⟩

end Path
end BuildPipeline
