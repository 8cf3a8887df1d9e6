import BuildPipeline.Json.Basic
import BuildPipeline.Count
import BuildPipeline.SortedMap

/-!
Reading records, choices and maps from documents. A record is an object whose unknown members are
ignored and whose known ones occur at most once, or the array of its fields in order.
-/
namespace BuildPipeline.Json

structure Fields where
  given : List (String × Json)
  /-- Whether they were given by position. -/
  positional : Bool

def fields? (names : List String) : Json → Option Fields
  | .object members =>
    let known := members.filter fun m => names.contains m.1
    if (known.map (·.1)).Nodup then some ⟨known, false⟩ else none
  | .array items =>
    if items.length ≤ names.length then some ⟨names.zip items, true⟩ else none
  | _ => none

abbrev Reader (α : Type) := Json → Option α

namespace Fields
variable {α : Type}

def get? (f : Fields) (name : String) : Option Json := f.given.lookup name

def required (f : Fields) (name : String) (read : Reader α) : Option α :=
  (f.get? name).bind read

/-- A field that may be left out, for which `otherwise` then stands. -/
def default (f : Fields) (name : String) (read : Reader α) (otherwise : α) : Option α :=
  match f.get? name with
  | some j => read j
  | none => some otherwise

/-- A field that need not be named; by position it has to be given. -/
def optional (f : Fields) (name : String) (read : Reader (Option α)) : Option (Option α) :=
  match f.get? name with
  | some j => read j
  | none => if f.positional then none else some none

end Fields

namespace Reader
variable {α : Type}

def text : Reader String := string?

def flag : Reader Bool := bool?

def number : Reader Float := double?

def count : Reader Count
  | .integer (.ofNat n) => Count.ofNat? n
  | _ => none

def int32 : Reader Int32
  | .integer n => if -0x80000000 ≤ n ∧ n < 0x80000000 then some (Int32.ofInt n) else none
  | _ => none

def nullable (read : Reader α) : Reader (Option α)
  | .null => some none
  | j => (read j).map some

def list (read : Reader α) : Reader (List α)
  | .array items => items.mapM read
  | _ => none

/-- A map, in which the last member of a key wins. -/
def map (read : Reader α) : Reader (SortedMap α)
  | .object members =>
    (members.mapM fun m => (read m.2).map fun v => (m.1, v)).map SortedMap.ofList
  | _ => none

/-- One of several names, alone or as the only key of an object that maps it to null. -/
def choice (options : List (String × α)) : Reader α
  | .string s => options.lookup s
  | .object [(s, .null)] => options.lookup s
  | _ => none

end Reader
end BuildPipeline.Json
