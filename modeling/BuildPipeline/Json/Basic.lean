/-!
Documents in JavaScript Object Notation as they are written: members in order and with
repetitions. A place that is well formed but denotes no value (an unpaired surrogate, a number
beyond every double) is kept as `unsound`; it does no harm where a reader ignores it.
-/
namespace BuildPipeline

inductive Json
  | null
  | bool (b : Bool)
  /-- A number written without point and exponent, from -2^63 to 2^64 - 1. -/
  | integer (n : Int)
  | double (x : Float)
  | string (s : String)
  | array (items : List Json)
  | object (members : List (String × Json))
  | unsound
  deriving Inhabited

namespace Json

mutual
/-- Whether a reader can keep the value: no unsound place, and arrays and objects nested at most
`levels` deep. -/
def keepable (levels : Nat) : Json → Bool
  | .unsound => false
  | .array items => 0 < levels && keepableItems (levels - 1) items
  | .object members => 0 < levels && keepableMembers (levels - 1) members
  | _ => true

def keepableItems (levels : Nat) : List Json → Bool
  | [] => true
  | j :: rest => keepable levels j && keepableItems levels rest

def keepableMembers (levels : Nat) : List (String × Json) → Bool
  | [] => true
  | m :: rest => keepable levels m.2 && keepableMembers levels rest
end

def maxLevels : Nat := 127

/-- The last member of an object with this key. -/
def member? (key : String) : Json → Option Json
  | .object members => members.reverse.lookup key
  | _ => none

def string? : Json → Option String
  | .string s => some s
  | _ => none

def bool? : Json → Option Bool
  | .bool b => some b
  | _ => none

def double? : Json → Option Float
  | .double x => some x
  | .integer (.ofNat n) => some n.toUInt64.toFloat
  | .integer (.negSucc n) => some (-(n + 1).toUInt64.toFloat)
  | _ => none

def members? : Json → Option (List (String × Json))
  | .object members => some members
  | _ => none

def items? : Json → Option (List Json)
  | .array items => some items
  | _ => none

def distinctKeys (members : List (String × Json)) : Nat :=
  (members.map (·.1)).eraseDups.length

end Json
end BuildPipeline
