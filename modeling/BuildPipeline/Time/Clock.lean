import BuildPipeline.Time.Timestamp
import BuildPipeline.Count

/-!
A clock as the sequence of what it shows, one reading for each look at it.
-/
namespace BuildPipeline

/-- One look at the clock: the moment, and milliseconds on a counter that never goes back. -/
structure Reading where
  moment : Timestamp
  milliseconds : Nat
  deriving Inhabited

structure Clock where
  readings : Nat → Reading
  looks : Nat

namespace Clock

def look (c : Clock) : Reading × Clock := (c.readings c.looks, { c with looks := c.looks + 1 })

def still (moment : Timestamp) : Clock := ⟨fun _ => ⟨moment, 0⟩, 0⟩

end Clock

def Reading.elapsed (start stop : Reading) : Count :=
  Count.saturate (stop.milliseconds - start.milliseconds)

end BuildPipeline
