import BuildPipeline.SortedMap

/-!
The variables that a started command sees: those of the process without its secrets, then those that
the settings give.
-/
namespace BuildPipeline.Environment

/-- Endings, in lower case, of names whose variables are secrets. -/
def secretEndings : List String := ["_api_key", "_secret", "_token", "_password", "_credential"]

def alwaysKept : List String := ["PATH", "HOME", "USER", "SHELL", "LANG", "TERM", "TMPDIR", "CI"]

def kelvinSign : Char := Char.ofNat 0x212A

/-- The lower case of a character where that is a letter of the endings: besides the capital letters
only the Kelvin sign has one. Any other character is left as it is. -/
def lower (c : Char) : Char := if c = kelvinSign then 'k' else c.toLower

def isSecret (name : String) : Bool :=
  secretEndings.any fun ending => ending.toList.isSuffixOf (name.toList.map lower)

def isHandedOn (name : String) : Bool := alwaysKept.contains name || !isSecret name

def withoutSecrets (process : SortedMap String) : SortedMap String :=
  .ofList (process.entries.filter fun e => isHandedOn e.1)

/-- What a command sees; given variables replace those of the process. -/
def ofCommand (process given : SortedMap String) : SortedMap String :=
  (withoutSecrets process).insertAll given.entries

end BuildPipeline.Environment
