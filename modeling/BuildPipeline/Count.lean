/-!
Counts of tests, findings, bytes and milliseconds: whole numbers below 2^64 whose
sums stop at the largest one instead of wrapping.
-/
namespace BuildPipeline

abbrev Count := UInt64

namespace Count

/-- One more than the largest count. -/
def bound : Nat := 0x10000000000000000

def saturate (n : Nat) : Count := UInt64.ofNat (min n (bound - 1))

def ofNat? (n : Nat) : Option Count :=
  if n < bound then some (UInt64.ofNat n) else none

def add (a b : Count) : Count := saturate (a.toNat + b.toNat)

def sum (counts : List Count) : Count := counts.foldl add 0

def text (c : Count) : String := toString c.toNat

theorem toNat_saturate (n : Nat) : (saturate n).toNat = min n (bound - 1) := by
  have : min n (bound - 1) < 2 ^ 64 := by simp only [bound]; omega
  simp only [saturate, UInt64.toNat_ofNat']
  exact Nat.mod_eq_of_lt this

theorem toNat_add (a b : Count) : (add a b).toNat = min (a.toNat + b.toNat) (bound - 1) :=
  toNat_saturate _

end Count
end BuildPipeline
