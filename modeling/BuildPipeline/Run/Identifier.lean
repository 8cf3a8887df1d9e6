/-!
Names of runs, made out of random bits.
-/
namespace BuildPipeline.RunId

def hexDigits (count n : Nat) : List Char :=
  let digits := Nat.toDigits 16 (n % Nat.pow 16 count)
  List.replicate (count - digits.length) '0' ++ digits

def bits : Nat := 122

/-- A name in five groups of hexadecimal digits. Two digits are marks of random names: the first of
the third group, and two bits of the first one of the fourth. -/
def ofRandom (n : Nat) : String :=
  let mark := 8 + n / Nat.pow 2 120 % 4
  String.ofList
    (hexDigits 8 (n / Nat.pow 2 88) ++ '-' :: hexDigits 4 (n / Nat.pow 2 72) ++ '-' :: '4' ::
      hexDigits 3 (n / Nat.pow 2 60) ++ '-' :: hexDigits 1 mark ++
      hexDigits 3 (n / Nat.pow 2 48) ++ '-' :: hexDigits 12 n)

end BuildPipeline.RunId
