import BuildPipeline.Json.Token

/-!
Reading a document: its tokens in turn fill the innermost open array or object.
-/
namespace BuildPipeline.Json

/-- An array or object that is still open, its parts last first. -/
inductive Frame
  | array (items : List Json)
  | object (members : List (Option String × Json)) (key : Option String)

inductive Expect
  | value
  | valueOrEnd
  | key
  | keyOrEnd
  | colon
  | separator
  deriving DecidableEq

inductive Builder
  | within (stack : List Frame) (expect : Expect)
  | finished (value : Json)

namespace Builder

def start : Builder := .within [] .value

def complete (stack : List Frame) (value : Json) : Builder :=
  match stack with
  | [] => .finished value
  | .array items :: rest => .within (.array (value :: items) :: rest) .separator
  | .object members key :: rest =>
    .within (.object ((key, value) :: members) none :: rest) .separator

/-- The object with these members; a key that is no text leaves no value. -/
def closeMembers (members : List (Option String × Json)) : Json :=
  match members.reverse.mapM fun m => m.1.map fun key => (key, m.2) with
  | some ms => .object ms
  | none => .unsound

def textValue : Option String → Json
  | some s => .string s
  | none => .unsound

def setKey (stack : List Frame) (key : Option String) : Option Builder :=
  match stack with
  | .object members _ :: rest => some (.within (.object members key :: rest) .colon)
  | _ => none

def feedValue (stack : List Frame) (orEnd : Bool) : Token → Option Builder
  | .openBracket => some (.within (.array [] :: stack) .valueOrEnd)
  | .openBrace => some (.within (.object [] none :: stack) .keyOrEnd)
  | .scalar v => some (complete stack v)
  | .text t => some (complete stack (textValue t))
  | .closeBracket =>
    match orEnd, stack with
    | true, .array items :: rest => some (complete rest (.array items.reverse))
    | _, _ => none
  | _ => none

def feedSeparator (stack : List Frame) : Token → Option Builder
  | .comma =>
    match stack with
    | .array _ :: _ => some (.within stack .value)
    | .object .. :: _ => some (.within stack .key)
    | [] => none
  | .closeBracket =>
    match stack with
    | .array items :: rest => some (complete rest (.array items.reverse))
    | _ => none
  | .closeBrace =>
    match stack with
    | .object members _ :: rest => some (complete rest (closeMembers members))
    | _ => none
  | _ => none

def feed : Builder → Token → Option Builder
  | .finished _, _ => none
  | .within stack .value, t => feedValue stack false t
  | .within stack .valueOrEnd, t => feedValue stack true t
  | .within stack .key, .text k => setKey stack k
  | .within stack .keyOrEnd, .text k => setKey stack k
  | .within (.object members _ :: rest) .keyOrEnd, .closeBrace =>
    some (complete rest (closeMembers members))
  | .within stack .colon, .colon => some (.within stack .value)
  | .within stack .separator, t => feedSeparator stack t
  | _, _ => none

def finish : Builder → Option Json
  | .finished v => some v
  | .within .. => none

end Builder

def parse? (text : String) : Option Json :=
  (tokens? text.toList).bind fun ts => (ts.foldlM Builder.feed .start).bind Builder.finish

/-- Reads a document of which everything is kept. -/
def parseKept? (text : String) : Option Json :=
  (parse? text).filter (·.keepable maxLevels)

end BuildPipeline.Json
