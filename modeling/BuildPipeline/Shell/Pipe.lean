import BuildPipeline.Shell.Journal

/-!
Pipes between two commands. A reader that has had enough ends, and from then on nothing can be
written to its pipe.
-/
namespace BuildPipeline.Shell

/-- How much a reader takes before it ends: so many bytes, or so many lines. -/
structure Appetite where
  inBytes : Bool
  count : Nat
  deriving DecidableEq

structure Pipe where
  journal : Journal := .empty
  /-- A reader without one takes all there is. -/
  appetite : Option Appetite := none
  bytes : Nat := 0
  lines : Nat := 0
  /-- The moment at which the reader has had enough. -/
  sated : Option Nat := none

namespace Pipe

/-- The bytes that a pipe holds while nobody reads it. -/
def capacity : Nat := 65536

def countLines (bytes : ByteArray) : Nat := bytes.foldl (fun n b => if b = 10 then n + 1 else n) 0

/-- Whether the reader is gone at a moment. What is written at the moment at which it has had enough
still finds room in the pipe. -/
def isBroken (p : Pipe) (moment : Nat) : Bool :=
  p.sated.any fun enough => enough < moment || capacity ≤ p.bytes

/-- Notes how much was written, and whether that is enough. -/
def measure (p : Pipe) (moment : Nat) (bytes : ByteArray) : Pipe :=
  match p.appetite with
  | none => p
  | some a =>
    let p := { p with bytes := p.bytes + bytes.size, lines := p.lines + countLines bytes }
    let isEnough := a.count ≤ (if a.inBytes then p.bytes else p.lines)
    { p with sated := p.sated.or (if isEnough then some moment else none) }

def write (p : Pipe) (moment process : Nat) (bytes : ByteArray) : Pipe :=
  { p.measure moment bytes with journal := p.journal.write ⟨moment, process, [bytes]⟩ }

end Pipe
end BuildPipeline.Shell
