/-!
What is written to one place by processes that run at the same time, in the order of the moments at
which it is written.
-/
namespace BuildPipeline.Shell

/-- Bytes with the moment at which they were written and the process that wrote them. -/
structure Journal.Entry where
  moment : Nat
  /-- The number of a job; 0 is the shell's own. -/
  process : Nat
  /-- What was written at once each time, the last one first. -/
  pieces : List ByteArray

structure Journal where
  /-- In order, the last one first. -/
  entries : List Journal.Entry

namespace Journal

def empty : Journal := ⟨[]⟩

/-- Whether an entry comes before another one. Of two of the same moment the shell's own comes
first. -/
def Entry.isBefore (e f : Entry) : Bool :=
  e.moment < f.moment || (e.moment = f.moment && e.process < f.process)

def insert (e : Entry) : List Entry → List Entry
  | [] => [e]
  | f :: rest =>
    if e.isBefore f then f :: insert e rest
    else if f.isBefore e then e :: f :: rest
    else { f with pieces := e.pieces ++ f.pieces } :: rest

def write (j : Journal) (e : Entry) : Journal := ⟨insert e j.entries⟩

def content (j : Journal) : ByteArray :=
  (j.entries.flatMap (·.pieces)).foldr (fun piece bytes => bytes ++ piece) .empty

/-- What is left if a process ended at a moment. -/
def stopped (j : Journal) (process moment : Nat) : Journal :=
  ⟨j.entries.filter fun e => e.process ≠ process || e.moment ≤ moment⟩

end Journal
end BuildPipeline.Shell
