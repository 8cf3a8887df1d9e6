import BuildPipeline.FileSystem.IoError

/-!
What a program is given when it is started: its arguments and variables, each with a byte that ends
it. There is only so much room for one of them and for all.
-/
namespace BuildPipeline.Shell

structure Handover where
  arguments : List String
  environment : List (String × String)

namespace Handover

def roomOf (text : String) : Nat := text.utf8ByteSize + 1

def roomOfAll (more : Nat) (texts : List String) : Nat :=
  texts.foldl (fun n t => n + roomOf t + more) 0

def roomForOne : Nat := 131072

/-- The room for all texts together with what points to them. -/
def roomForAll : Nat := 2097152

def pointerBytes : Nat := 8

def texts (h : Handover) : List String :=
  h.arguments ++ h.environment.map fun v => v.1 ++ "=" ++ v.2

def fits (h : Handover) : Bool :=
  h.texts.all (roomOf · ≤ roomForOne) && roomOfAll pointerBytes h.texts ≤ roomForAll

end Handover

/-- How many words at the front there is room for, `count` at most. -/
def groupSize (room count : Nat) : List String → Nat
  | [] => 0
  | w :: rest =>
    if count = 0 || room < Handover.roomOf w then 0
    else groupSize (room - Handover.roomOf w) (count - 1) rest + 1

/-- Words in groups of at most `count`, for which there is room; a word that has none stands
alone. -/
def groupsOf (room count : Nat) (words : List String) : List (List String) :=
  match words with
  | [] => []
  | w :: rest =>
    let size := groupSize (room - Handover.roomOf w) (count - 1) rest
    (w :: rest.take size) :: groupsOf room count (rest.drop size)
  termination_by words.length
  decreasing_by simp only [List.length_drop, List.length_cons]; omega

/-- No word is lost or moved. -/
theorem flatten_groupsOf (room count : Nat) (words : List String) :
    (groupsOf room count words).flatten = words := by
  fun_induction groupsOf room count words with
  | case1 => rfl
  | case2 w rest size ih => simp [ih]

end BuildPipeline.Shell
